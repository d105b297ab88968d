import SearchMapper.Json.Basic
import SearchMapper.Text.Blank

/-!
# Conditions

A search condition is a predicate on one field: how the field is queried, what it is compared
with and which clause of the query it goes to. A list of conditions is flat: batches of
predicates, with markers between them that open and close groups or start a disjunction.
-/

namespace SearchMapper

/-- How a predicate looks at its field. -/
inductive Operator where
  /-- The exact value, not analyzed. -/
  | exact
  /-- Analyzed full text. -/
  | fullText
  | startsWith
  | wildcard
  | range
  | terms
  | present
deriving DecidableEq, Repr

/-- What a predicate says about its field, or the slot of the query it goes to. -/
inductive Clause where
  | must
  | filter
  | should
  | mustNot
  | gt
  | lt
  | ge
  | le
  | between
  | notBetween
  | among
  | notAmong
  | present
  | absent
  | likeLeft
  | likeRight
deriving DecidableEq, Repr

/-- The clause as messages name it. -/
def Clause.label : Clause → String
  | must => "Must"
  | filter => "Filter"
  | should => "Should"
  | mustNot => "MustNot"
  | gt => "Gt"
  | lt => "Lt"
  | ge => "Ge"
  | le => "Le"
  | between => "Between"
  | notBetween => "NotBetween"
  | among => "In"
  | notAmong => "NotIn"
  | present => "Exists"
  | absent => "NotExists"
  | likeLeft => "LikeLeft"
  | likeRight => "LikeRight"

/-- The clauses that are rendered as the negation of another. -/
def Clause.isNegated : Clause → Bool
  | notBetween | notAmong | absent => true
  | _ => false

/-- What a predicate compares its field with. -/
inductive Operand where
  | none
  | single (value : Json)
  | many (values : List Json)
  /-- Both bounds belong to the range. -/
  | bounds (low high : Json)
deriving DecidableEq, Repr

/-- One search condition. `clause` is the clause in effect; `givenClause` is the one the
predicate was made with, which moving it into a disjunction does not change. -/
structure Predicate where
  field : String
  operator : Operator
  clause : Clause
  givenClause : Clause
  operand : Operand
  boost : Option Single
deriving DecidableEq, Repr

namespace Predicate

/-- A predicate in the clause it is made with. -/
def make (field : String) (operator : Operator) (clause : Clause) (operand : Operand) :
    Predicate :=
  { field, operator, clause, givenClause := clause, operand, boost := none }

/-- The predicate with a boost. -/
def withBoost (p : Predicate) (boost : Single) : Predicate :=
  { p with boost := some boost }

/-- Moves the predicate into a disjunction. -/
def reclassify (p : Predicate) : Predicate :=
  { p with clause := .should }

/-- The predicate was moved into a disjunction. -/
def isReclassified (p : Predicate) : Bool :=
  p.clause == .should && p.givenClause != .should

end Predicate

/-! ## Valid predicates -/

/-- Why a predicate cannot be rendered. -/
inductive PredicateFault where
  | blankField
  | needsBounds (clause : Clause) (field : String)
  | needsValues (clause : Clause) (field : String)
  | takesNoValue (clause : Clause) (field : String)
  | needsOneValue (clause : Clause) (field : String)
  | needsComparison (field : String)
  | wrongShape (clause : Clause) (field : String)
deriving DecidableEq, Repr

/-- The text of a fault. -/
def PredicateFault.message : PredicateFault → String
  | blankField => "Predicate field cannot be empty"
  | needsBounds clause field =>
    clause.label ++ " on '" ++ field ++ "' requires both a low and a high value"
  | needsValues clause field =>
    clause.label ++ " on '" ++ field ++ "' requires a non-empty value set"
  | takesNoValue clause field => clause.label ++ " on '" ++ field ++ "' does not take a value"
  | needsOneValue clause field => clause.label ++ " on '" ++ field ++ "' requires exactly one value"
  | needsComparison field => "Range on '" ++ field ++ "' needs a comparison kind"
  | wrongShape clause field =>
    "Value of " ++ clause.label ++ " predicate on '" ++ field ++ "' has the wrong shape"

/-- Checks that the operand has the shape that the given clause asks for. A terms or
presence operator may go directly to a slot, with a set of values or none. -/
def Predicate.validate (p : Predicate) : Except PredicateFault Unit :=
  if Text.isBlank p.field then .error .blankField
  else
    match p.givenClause, p.operand with
    | .between, .bounds _ _ | .notBetween, .bounds _ _ => .ok ()
    | .between, _ | .notBetween, _ => .error (.needsBounds p.givenClause p.field)
    | .among, .many (_ :: _) | .notAmong, .many (_ :: _) => .ok ()
    | .among, _ | .notAmong, _ => .error (.needsValues p.givenClause p.field)
    | .present, .none | .absent, .none => .ok ()
    | .present, _ | .absent, _ => .error (.takesNoValue p.givenClause p.field)
    | _, .single _ => .ok ()
    | _, .many (_ :: _) =>
      if p.operator = .terms then .ok () else .error (.needsOneValue p.givenClause p.field)
    | _, .none =>
      if p.operator = .present then .ok () else .error (.needsOneValue p.givenClause p.field)
    | _, _ => .error (.needsOneValue p.givenClause p.field)

/-! ## Markers and entries -/

/-- A marker between predicates. -/
inductive Marker where
  | andOpen
  | orOpen
  | andClose
  | orClose
  /-- Everything at this level joins one disjunction from here on. -/
  | orChain
deriving DecidableEq, Repr

namespace Marker

/-- The marker as messages name it. -/
def label : Marker → String
  | andOpen => "AndGroupOpen"
  | orOpen => "OrGroupOpen"
  | andClose => "AndGroupClose"
  | orClose => "OrGroupClose"
  | orChain => "OrChain"

/-- The marker opens a group. -/
def isOpen : Marker → Bool
  | andOpen | orOpen => true
  | _ => false

/-- The marker closes a group. -/
def isClose : Marker → Bool
  | andClose | orClose => true
  | _ => false

/-- The marker that closes the group this one opens. -/
def closing? : Marker → Option Marker
  | andOpen => some andClose
  | orOpen => some orClose
  | _ => none

end Marker

/-- One entry of a condition list. -/
inductive Entry where
  /-- Predicates that were added together. -/
  | batch (predicates : List Predicate)
  | marker (marker : Marker)
deriving DecidableEq, Repr

/-- The marker of an entry that is one. -/
def Entry.marker? : Entry → Option Marker
  | marker m => some m
  | batch _ => none

/-- The predicates of an entry. -/
def Entry.predicates : Entry → List Predicate
  | batch predicates => predicates
  | marker _ => []

/-- A flat list of conditions. -/
abbrev Conditions := List Entry

/-- All predicates of a list, in order. -/
def Conditions.predicates (conditions : Conditions) : List Predicate :=
  conditions.flatMap Entry.predicates

end SearchMapper
