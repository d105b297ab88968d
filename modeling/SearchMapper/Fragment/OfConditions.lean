import SearchMapper.Fragment.OfPredicate

/-!
# Compiling conditions

`Conditions.compile` turns a flat condition list into one boolean query in a single pass. A
group becomes one clause of its own: under must for an AND group, under should for an OR
group. A chain marker moves predicates into a disjunction: inside a group all predicates of
the group, wherever the marker stands, and outside all groups everything after the marker. To
know of a chain marker in time, an open marker looks ahead to its close marker.
-/

namespace SearchMapper

/-- Why the groups of a list are not well formed. The last three are found by checks of the
pass itself, after the look ahead. -/
inductive GroupFault where
  | nested (position : Nat)
  | mismatched (marker : Marker) (position : Nat) (opening : Marker)
  | neverClosed (opening : Marker) (position : Nat)
  | noOpen (marker : Marker) (position : Nat)
  | openWhileOpen (position : Nat)
  | closeOfOther (marker : Marker) (position : Nat) (opening : Marker)
  | leftOpen (opening : Marker)
deriving DecidableEq, Repr

namespace GroupFault

/-- The text for a group inside another. -/
def nestedText (position : Nat) : String :=
  "Nested group at position " ++ toString position ++ ": groups cannot nest"

/-- The text for a close marker of the other kind. -/
def mismatchText (marker : Marker) (position : Nat) (opening : Marker) : String :=
  marker.label ++ " at position " ++ toString position ++ " does not close " ++ opening.label

/-- The text of a fault. -/
def message : GroupFault → String
  | nested position => nestedText position
  | mismatched marker position opening => mismatchText marker position opening
  | neverClosed opening position =>
    opening.label ++ " at position " ++ toString position ++ " is never closed"
  | noOpen marker position =>
    marker.label ++ " at position " ++ toString position ++ " has no matching open"
  | openWhileOpen position => nestedText position
  | closeOfOther marker position opening => mismatchText marker position opening
  | leftOpen opening => opening.label ++ " is never closed"

end GroupFault

/-- Why a condition list does not compile. -/
inductive CompileFault where
  | group (fault : GroupFault)
  | predicate (fault : PredicateFault)
deriving DecidableEq, Repr

/-- The text of a fault. -/
def CompileFault.message : CompileFault → String
  | group fault => fault.message
  | predicate fault => fault.message

/-- Looks from an open marker to the close marker of its group. The answer says whether a
chain marker was passed. `position` is that of the first entry looked at. -/
def lookAhead (opening : Marker) (openAt : Nat) (chained : Bool) (position : Nat) :
    List Entry → Except GroupFault Bool
  | [] => .error (.neverClosed opening openAt)
  | .batch _ :: rest => lookAhead opening openAt chained (position + 1) rest
  | .marker .orChain :: rest => lookAhead opening openAt true (position + 1) rest
  | .marker marker :: _ =>
    if marker.isOpen then .error (.nested position)
    else if opening.closing? = some marker then .ok chained
    else .error (.mismatched marker position opening)

/-- A group whose close marker is still to come. -/
structure OpenGroup where
  opening : Marker
  query : BoolQuery
  /-- The predicates of the group are alternatives. -/
  chaining : Bool

/-- What has been compiled so far. -/
structure Compilation where
  outer : BoolQuery := {}
  group : Option OpenGroup := none
  /-- A chain marker outside all groups was passed. -/
  chaining : Bool := false

/-- Adds the rendered predicates of a batch to a query, in order. -/
def BoolQuery.addBatch (query : BoolQuery) (chained : Bool) :
    List Predicate → Except PredicateFault BoolQuery
  | [] => .ok query
  | p :: rest => do
    let p := if chained then p.reclassify else p
    (query.add p.occur (← p.render)).addBatch chained rest

namespace Compilation

/-- Adds a batch to the open group, or to the outer query if none is open. -/
def batch (state : Compilation) (predicates : List Predicate) :
    Except PredicateFault Compilation :=
  match state.group with
  | some group => do
    let query ← group.query.addBatch (state.chaining || group.chaining) predicates
    return { state with group := some { group with query } }
  | none => return { state with outer := ← state.outer.addBatch state.chaining predicates }

/-- Opens a group, after looking at the entries that follow. -/
def openGroup (state : Compilation) (opening : Marker) (position : Nat) (rest : List Entry) :
    Except GroupFault Compilation :=
  if state.group.isSome then .error (.openWhileOpen position)
  else do
    let chaining ← lookAhead opening position false (position + 1) rest
    return { state with group := some { opening, query := {}, chaining } }

/-- Closes the open group. A group without clauses leaves nothing behind. -/
def closeGroup (state : Compilation) (marker : Marker) (position : Nat) :
    Except GroupFault Compilation :=
  match state.group with
  | none => .error (.noOpen marker position)
  | some group =>
    if group.opening.closing? = some marker then
      let outer :=
        if group.query.isEmpty then state.outer
        else
          state.outer.add (if marker = .andClose then .must else .should) (.bool group.query)
      .ok { state with outer, group := none }
    else .error (.closeOfOther marker position group.opening)

/-- Passes a chain marker. -/
def chain (state : Compilation) : Compilation :=
  match state.group with
  | some group => { state with group := some { group with chaining := true } }
  | none => { state with chaining := true }

/-- Compiles entries, the first of which stands at `position`. -/
def run (state : Compilation) (position : Nat) :
    List Entry → Except CompileFault Compilation
  | [] => .ok state
  | .batch predicates :: rest => do
    let state ← (state.batch predicates).mapError CompileFault.predicate
    state.run (position + 1) rest
  | .marker .orChain :: rest => state.chain.run (position + 1) rest
  | .marker marker :: rest => do
    let state ←
      (if marker.isOpen then state.openGroup marker position rest
        else state.closeGroup marker position).mapError CompileFault.group
    state.run (position + 1) rest

/-- The compiled query, with a spatial filter as its last filter clause. -/
def finish (state : Compilation) (geo : Option GeoFilter) : Except CompileFault BoolQuery :=
  match state.group with
  | some group => .error (.group (.leftOpen group.opening))
  | none =>
    match geo with
    | some filter => .ok (state.outer.add .filter (.ofGeo filter))
    | none => .ok state.outer

end Compilation

/-- Compiles a condition list and a spatial filter into one boolean query. -/
def Conditions.compile (conditions : Conditions) (geo : Option GeoFilter) :
    Except CompileFault BoolQuery := do
  let state : Compilation := {}
  (← state.run 0 conditions).finish geo

end SearchMapper
