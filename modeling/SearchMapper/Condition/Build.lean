import SearchMapper.Condition.Basic

/-!
# Building conditions

A `Step` is one call that extends a condition list; `Conditions.build` performs a sequence of
them. Every predicate is a batch of its own. A group is built apart, as a list by itself, and
then put between its two markers.
-/

namespace SearchMapper

/-- The predicates that compare a field with one value. -/
inductive Comparison where
  | eq
  | ne
  | filter
  | should
  | mustNot
  | isMatch
  | startsWith
  | like
  | likeLeft
  | likeRight
  | gt
  | ge
  | lt
  | le
deriving DecidableEq, Repr

/-- The operator and the clause of a comparison. -/
def Comparison.kind : Comparison → Operator × Clause
  | eq => (.exact, .must)
  | ne => (.exact, .mustNot)
  | filter => (.exact, .filter)
  | should => (.exact, .should)
  | mustNot => (.fullText, .mustNot)
  | isMatch => (.fullText, .must)
  | startsWith => (.startsWith, .must)
  | like => (.wildcard, .must)
  | likeLeft => (.wildcard, .likeLeft)
  | likeRight => (.wildcard, .likeRight)
  | gt => (.range, .gt)
  | ge => (.range, .ge)
  | lt => (.range, .lt)
  | le => (.range, .le)

/-- The two kinds of groups. -/
inductive GroupKind where
  /-- All conditions of the group must hold. -/
  | all
  /-- The group is one alternative. -/
  | any
deriving DecidableEq, Repr

/-- The marker that opens a group. -/
def GroupKind.open : GroupKind → Marker
  | all => .andOpen
  | any => .orOpen

/-- The marker that closes a group. -/
def GroupKind.close : GroupKind → Marker
  | all => .andClose
  | any => .orClose

/-- One call that extends a condition list. -/
inductive Step where
  | compare (comparison : Comparison) (field : String) (value : Json)
  | between (field : String) (low high : Json)
  | notBetween (field : String) (low high : Json)
  | among (field : String) (values : List Json)
  | notAmong (field : String) (values : List Json)
  | present (field : String)
  | absent (field : String)
  /-- Sets the boost of the last predicate so far. -/
  | boost (weight : Single)
  | orChain
  | group (kind : GroupKind) (steps : List Step)
  /-- Adds a marker as it is. -/
  | marker (marker : Marker)
  /-- Adds predicates as one batch. -/
  | batch (predicates : List Predicate)

namespace Conditions

/-- Sets the boost of the last predicate of a batch. -/
def boostLast (weight : Single) : List Predicate → List Predicate
  | [] => []
  | [p] => [p.withBoost weight]
  | p :: rest => p :: boostLast weight rest

/-- Sets the boost of the first predicate found in `entries`, which are in reverse, with the
predicates of a batch searched from its end. -/
def boostFirst (weight : Single) : List Entry → List Entry
  | [] => []
  | .batch (p :: ps) :: rest => .batch (boostLast weight (p :: ps)) :: rest
  | entry :: rest => entry :: boostFirst weight rest

/-- Sets the boost of the last predicate of the list, past markers and empty batches. -/
def boost (weight : Single) (conditions : Conditions) : Conditions :=
  (boostFirst weight conditions.reverse).reverse

/-- Adds one predicate. -/
def push (conditions : Conditions) (p : Predicate) : Conditions :=
  conditions ++ [.batch [p]]

/-- Puts a list between the markers of a group. -/
def grouped (kind : GroupKind) (inner : Conditions) : Conditions :=
  .marker kind.open :: inner ++ [.marker kind.close]

mutual
/-- The list after one more call. -/
def extend (conditions : Conditions) : Step → Conditions
  | .compare comparison field value =>
    conditions.push (.make field comparison.kind.1 comparison.kind.2 (.single value))
  | .between field low high => conditions.push (.make field .range .between (.bounds low high))
  | .notBetween field low high =>
    conditions.push (.make field .range .notBetween (.bounds low high))
  | .among field values => conditions.push (.make field .terms .among (.many values))
  | .notAmong field values => conditions.push (.make field .terms .notAmong (.many values))
  | .present field => conditions.push (.make field .present .present .none)
  | .absent field => conditions.push (.make field .present .absent .none)
  | .boost weight => boost weight conditions
  | .orChain => conditions ++ [.marker .orChain]
  | .group kind steps => conditions ++ grouped kind (extendAll [] steps)
  | .marker marker => conditions ++ [.marker marker]
  | .batch predicates => conditions ++ [.batch predicates]

/-- The list after a sequence of calls. -/
def extendAll (conditions : Conditions) : List Step → Conditions
  | [] => conditions
  | step :: rest => extendAll (extend conditions step) rest
end

/-- The list that a sequence of calls builds. -/
def build (steps : List Step) : Conditions := extendAll [] steps

/-- The list that one comparison builds. -/
def compare (comparison : Comparison) (field : String) (value : Json) : Conditions :=
  build [.compare comparison field value]

end Conditions
end SearchMapper
