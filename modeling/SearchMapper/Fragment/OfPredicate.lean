import SearchMapper.Fragment.Basic
import SearchMapper.Json.Printer

/-!
# Rendering predicates

`Predicate.render` turns one predicate into a fragment; `Predicate.occur` names the slot it
goes to. A predicate that was moved into a disjunction is rendered by the clause it was given
before, so the move changes the slot and not the condition.
-/

namespace SearchMapper

/-- The text of a value inside a wildcard pattern: a string as it is, anything else as JSON. -/
def patternText : Json → String
  | .string text => text
  | value => value.compact

namespace Predicate

/-- The slot of a predicate, from the clause in effect. -/
def occur (p : Predicate) : Occur :=
  match p.clause with
  | .filter => .filter
  | .should => .should
  | .mustNot => .mustNot
  | _ => .must

/-- The clause that decides how a predicate is rendered. -/
def effectiveClause (p : Predicate) : Clause :=
  if p.isReclassified then p.givenClause else p.clause

/-- The fault of an operand that does not fit the clause. -/
def shapeFault (p : Predicate) : PredicateFault := .wrongShape p.givenClause p.field

/-- The single value of a predicate. -/
def singleValue (p : Predicate) : Except PredicateFault Json :=
  match p.operand with
  | .single value => .ok value
  | _ => .error p.shapeFault

/-- The set of values of a predicate, which may also be given as one array. -/
def manyValues (p : Predicate) : Except PredicateFault (List Json) :=
  match p.operand with
  | .many (value :: rest) => .ok (value :: rest)
  | .single (.array (value :: rest)) => .ok (value :: rest)
  | _ => .error p.shapeFault

/-- The bounds of a predicate, both inclusive. -/
def bothBounds (p : Predicate) : Except PredicateFault Bounds :=
  match p.operand with
  | .bounds low high => .ok { gte := some low, lte := some high }
  | _ => .error p.shapeFault

/-- The test of a predicate that goes directly to a slot, by its operator. -/
def operatorTest (p : Predicate) : Except PredicateFault FieldTest :=
  match p.operator with
  | .exact => return .term (← p.singleValue)
  | .fullText => return .fullText (← p.singleValue)
  | .startsWith => return .startsWith (← p.singleValue)
  | .wildcard => return .wildcard ("*" ++ patternText (← p.singleValue) ++ "*")
  | .terms => return .terms (← p.manyValues)
  | .present => return .present
  | .range => throw (.needsComparison p.field)

/-- The test of a predicate, by the clause that decides. -/
def clauseTest (p : Predicate) : Except PredicateFault FieldTest :=
  match p.effectiveClause with
  | .must | .filter | .should | .mustNot => p.operatorTest
  | .gt => return .range { gt := some (← p.singleValue) }
  | .ge => return .range { gte := some (← p.singleValue) }
  | .lt => return .range { lt := some (← p.singleValue) }
  | .le => return .range { lte := some (← p.singleValue) }
  | .between | .notBetween => return .range (← p.bothBounds)
  | .among | .notAmong => return .terms (← p.manyValues)
  | .present | .absent => return .present
  | .likeLeft => return .wildcard ("*" ++ patternText (← p.singleValue))
  | .likeRight => return .wildcard (patternText (← p.singleValue) ++ "*")

/-- The rendered test stands for its negation: for the negated clauses, and for a predicate
under must_not that was moved out of that slot. -/
def rendersNegated (p : Predicate) : Bool :=
  p.effectiveClause.isNegated || (p.effectiveClause == .mustNot && p.isReclassified)

/-- Renders a predicate. -/
def render (p : Predicate) : Except PredicateFault Fragment := do
  p.validate
  let test ← p.clauseTest
  let leaf : Fragment := .leaf { field := p.field, test, boost := p.boost }
  return if p.rendersNegated then .not leaf else leaf

end Predicate
end SearchMapper
