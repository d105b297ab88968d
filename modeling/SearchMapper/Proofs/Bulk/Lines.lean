import SearchMapper.Transport.Http

/-!
# The lines of bulk requests

A bulk request is a list of lines, without brackets around its operations: an operation is announced
on one line, and unless it deletes, the next line is its source, whatever that looks like. A reader
that knows no more than this takes the operations out of the lines again:
`Http.bulkLines_unambiguous`.
-/

namespace SearchMapper.Http

/-! ## The lines of one operation -/

theorem bulkLines_cons (operation : BulkOperation) (operations : List BulkOperation) :
    bulkLines (operation :: operations) = operationLines operation ++ bulkLines operations :=
  List.flatMap_cons

/-- Operations with a document take two lines each, at twice their position. -/
theorem take_drop_bulkLines {operations : List BulkOperation}
    (htwo : ∀ operation ∈ operations, (operationLines operation).length = 2) {i : Nat}
    {operation : BulkOperation} (h : operations[i]? = some operation) :
    ((bulkLines operations).drop (2 * i)).take 2 = operationLines operation := by
  induction operations generalizing i with
  | nil => cases h
  | cons first rest ih =>
    have hfirst := htwo first List.mem_cons_self
    rw [bulkLines_cons]
    cases i with
    | zero =>
      rw [List.getElem?_cons_zero, Option.some.injEq] at h
      subst h
      rw [Nat.mul_zero, List.drop_zero, List.take_left' hfirst]
    | succ i =>
      rw [List.getElem?_cons_succ] at h
      have hskip : 2 * (i + 1) = (operationLines first).length + 2 * i := by omega
      rw [hskip, List.drop_length_add_append]
      exact ih (fun operation hmem => htwo operation (List.mem_cons_of_mem _ hmem)) h

/-- An operation has a line for itself, and one for its document unless it deletes. -/
theorem length_bulkLines (operations : List BulkOperation) :
    (bulkLines operations).length =
      2 * operations.countP (fun operation =>
          decide (operation.action = .index ∨ operation.action = .update)) +
        operations.countP fun operation => decide (operation.action = .delete) := by
  induction operations with
  | nil => rfl
  | cons operation operations ih =>
    rw [bulkLines_cons, List.length_append, ih, List.countP_cons, List.countP_cons]
    cases operation with
    | index id document | update id document =>
      simp only [operationLines, BulkOperation.action, List.length_cons, List.length_nil, or_false,
        or_true, decide_true, if_true, reduceCtorEq, decide_false, Bool.false_eq_true, if_false]
      omega
    | delete id =>
      simp only [operationLines, BulkOperation.action, List.length_cons, List.length_nil, or_false,
        decide_true, if_true, reduceCtorEq, decide_false, Bool.false_eq_true, if_false]
      omega

/-! ## Reading lines -/

/-- The action that is announced under a name. -/
def action? : String → Option BulkAction
  | "index" => some .index
  | "update" => some .update
  | "delete" => some .delete
  | _ => none

/-- What a line announces: an action, and the identifier that it is for, if there is one. -/
def announced? : Json → Option (BulkAction × Option String)
  | .object [(name, .object members)] =>
    match Members.find? "_id" members with
    | some (.string id) => (action? name).map (·, some id)
    | some _ => none
    | none => (action? name).map (·, none)
  | _ => none

/-- The operations that lines stand for. A deletion is a line of its own; the source of an update is
the member `doc` of its second line. -/
def operations? : List Json → Option (List BulkOperation)
  | [] => some []
  | line :: rest =>
    match announced? line with
    | some (.delete, some id) => (operations? rest).map (.delete id :: ·)
    | some (.index, id) =>
      match rest with
      | source :: rest => (operations? rest).map (.index id source :: ·)
      | [] => none
    | some (.update, some id) =>
      match rest with
      | source :: rest =>
        (source.member? "doc").bind fun document =>
          (operations? rest).map (.update id document :: ·)
      | [] => none
    | _ => none

theorem announced?_actionLine (operation : BulkOperation) :
    announced? (actionLine operation) = some (operation.action, operation.id?) := by
  have haction : action? operation.action.name = some operation.action := by
    cases operation <;> rfl
  unfold actionLine
  cases operation.id? with
  | none =>
    show (action? operation.action.name).map (·, none) = _
    rw [haction]
    rfl
  | some id =>
    show (action? operation.action.name).map (·, some id) = _
    rw [haction]
    rfl

/-- The lines of one operation are read as that operation, whatever lines come after them. -/
theorem operations?_operationLines_append (operation : BulkOperation) (rest : List Json) :
    operations? (operationLines operation ++ rest) = (operations? rest).map (operation :: ·) := by
  have hline := announced?_actionLine operation
  cases operation <;> rw [operationLines, List.cons_append, operations?, hline] <;> rfl

/-- Operations are read back from their lines, whatever lines come after them. -/
theorem operations?_bulkLines_append (operations : List BulkOperation) (rest : List Json) :
    operations? (bulkLines operations ++ rest) = (operations? rest).map (operations ++ ·) := by
  induction operations with
  | nil => exact Option.map_id'.symm
  | cons operation operations ih =>
    rw [bulkLines_cons, List.append_assoc, operations?_operationLines_append, ih, Option.map_map]
    rfl

/-! ## Main result -/

/-- **The lines of a bulk request are unambiguous.** Read line by line they are the operations they
were made of, in order, also where a document looks like the line of another operation. So requests
with the same lines have the same operations. There are two lines for each operation with a document
and one for each deletion. -/
theorem bulkLines_unambiguous :
    (∀ operations, operations? (bulkLines operations) = some operations) ∧
      Function.Injective bulkLines ∧
      ∀ operations, (bulkLines operations).length =
        2 * operations.countP (fun operation =>
            decide (operation.action = .index ∨ operation.action = .update)) +
          operations.countP fun operation => decide (operation.action = .delete) := by
  have hread : ∀ operations, operations? (bulkLines operations) = some operations := by
    intro operations
    have h := operations?_bulkLines_append operations []
    rw [List.append_nil] at h
    rw [h, operations?, Option.map_some, List.append_nil]
  refine ⟨hread, fun first second h => ?_, length_bulkLines⟩
  have hfirst := hread first
  rw [h, hread second, Option.some.injEq] at hfirst
  exact hfirst.symm

/-- A document that looks like the announcement of a deletion. -/
example : operations? (bulkLines [.index none (.single "delete" (.single "_id" (.string "x"))),
    .delete "y"]) =
      some [.index none (.single "delete" (.single "_id" (.string "x"))), .delete "y"] := by
  decide +kernel

end SearchMapper.Http
