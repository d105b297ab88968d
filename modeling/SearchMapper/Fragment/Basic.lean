import SearchMapper.Condition.Basic
import SearchMapper.Geo.Basic

/-!
# Query fragments

What conditions are rendered to: tests of single fields, negations, and boolean queries with
four slots of clauses. A boolean query matches what all clauses under must and filter match
and no clause under must_not does; clauses under should are alternatives.
-/

namespace SearchMapper

/-- The bounds of a range; a missing one does not restrict it. -/
structure Bounds where
  gt : Option Json := none
  gte : Option Json := none
  lt : Option Json := none
  lte : Option Json := none
deriving DecidableEq, Repr

/-- What is asked of a field. -/
inductive FieldTest where
  | term (value : Json)
  | terms (values : List Json)
  | fullText (text : Json)
  | startsWith (start : Json)
  | wildcard (pattern : String)
  | range (bounds : Bounds)
  | present
  | geo (area : GeoArea)
deriving DecidableEq, Repr

/-- A test of one field. -/
structure Leaf where
  field : String
  test : FieldTest
  boost : Option Single
deriving DecidableEq, Repr

/-- The slots of a boolean query. -/
inductive Occur where
  | must
  | filter
  | should
  | mustNot
deriving DecidableEq, Repr

/-- The clauses of a boolean query by slot. -/
structure Slots (α : Type) where
  must : List α := []
  filter : List α := []
  should : List α := []
  mustNot : List α := []
deriving DecidableEq, Repr

/-- A query fragment. -/
inductive Fragment where
  | leaf (leaf : Leaf)
  | not (inner : Fragment)
  | bool (query : Slots Fragment)

/-- A boolean query. Without clauses it matches every document. -/
abbrev BoolQuery := Slots Fragment

namespace Slots
variable {α : Type}

/-- The clauses of one slot. -/
def get (slots : Slots α) : Occur → List α
  | .must => slots.must
  | .filter => slots.filter
  | .should => slots.should
  | .mustNot => slots.mustNot

/-- Adds a clause at the end of a slot. -/
def push (slots : Slots α) (clause : α) : Occur → Slots α
  | .must => { slots with must := slots.must ++ [clause] }
  | .filter => { slots with filter := slots.filter ++ [clause] }
  | .should => { slots with should := slots.should ++ [clause] }
  | .mustNot => { slots with mustNot := slots.mustNot ++ [clause] }

/-- The clauses of each slot of the first, followed by those of the second. -/
def append (first second : Slots α) : Slots α :=
  { must := first.must ++ second.must
    filter := first.filter ++ second.filter
    should := first.should ++ second.should
    mustNot := first.mustNot ++ second.mustNot }

instance : Append (Slots α) := ⟨append⟩

/-- No slot has a clause. -/
def isEmpty (slots : Slots α) : Bool :=
  slots.must.isEmpty && slots.filter.isEmpty && slots.should.isEmpty && slots.mustNot.isEmpty

/-- The number of clauses in all slots. -/
def clauseCount (slots : Slots α) : Nat :=
  slots.must.length + slots.filter.length + slots.should.length + slots.mustNot.length

end Slots

/-- Attaches a fragment to a slot. A negation under must or filter goes to must_not without
its negation sign; under should it stays as it is, one alternative among the others. -/
def BoolQuery.add (query : BoolQuery) (occur : Occur) (fragment : Fragment) : BoolQuery :=
  match occur, fragment with
  | .must, .not inner | .filter, .not inner => query.push inner .mustNot
  | occur, fragment => query.push fragment occur

/-- The fragment of a spatial filter. -/
def Fragment.ofGeo (filter : GeoFilter) : Fragment :=
  .leaf { field := filter.field, test := .geo filter.area, boost := filter.boost }

end SearchMapper
