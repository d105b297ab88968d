import SearchMapper.Fragment.Basic

/-!
# Slots under concatenation

The clauses of two boolean queries put together slot by slot. Concatenation is associative, the
query without clauses is neutral for it, and attaching a fragment to a query is the same as
appending the query that holds this fragment alone. So what a list of conditions compiles to can
be read as the concatenation of what its members contribute.
-/

namespace SearchMapper
namespace Slots
variable {α : Type}

/-! ## The four slots of a concatenation -/

@[simp] theorem must_append (first second : Slots α) :
    (first ++ second).must = first.must ++ second.must := rfl

@[simp] theorem filter_append (first second : Slots α) :
    (first ++ second).filter = first.filter ++ second.filter := rfl

@[simp] theorem should_append (first second : Slots α) :
    (first ++ second).should = first.should ++ second.should := rfl

@[simp] theorem mustNot_append (first second : Slots α) :
    (first ++ second).mustNot = first.mustNot ++ second.mustNot := rfl

/-- Two queries with the same clauses in each slot are the same. -/
theorem ext_slots {first second : Slots α} (hmust : first.must = second.must)
    (hfilter : first.filter = second.filter) (hshould : first.should = second.should)
    (hmustNot : first.mustNot = second.mustNot) : first = second := by
  cases first
  cases second
  simp only at hmust hfilter hshould hmustNot
  rw [hmust, hfilter, hshould, hmustNot]

/-- A slot of a concatenation holds the clauses of the first query before those of the second. -/
theorem get_append (first second : Slots α) (slot : Occur) :
    (first ++ second).get slot = first.get slot ++ second.get slot := by
  cases slot <;> rfl

theorem get_empty (slot : Occur) : ({} : Slots α).get slot = [] := by
  cases slot <;> rfl

@[simp] theorem empty_append (slots : Slots α) : {} ++ slots = slots :=
  ext_slots (List.nil_append _) (List.nil_append _) (List.nil_append _) (List.nil_append _)

@[simp] theorem append_empty (slots : Slots α) : slots ++ {} = slots :=
  ext_slots (List.append_nil _) (List.append_nil _) (List.append_nil _) (List.append_nil _)

theorem append_assoc (first second third : Slots α) :
    first ++ second ++ third = first ++ (second ++ third) :=
  ext_slots (List.append_assoc _ _ _) (List.append_assoc _ _ _) (List.append_assoc _ _ _)
    (List.append_assoc _ _ _)

/-- A query has no clauses exactly if each of its slots is empty. -/
theorem isEmpty_iff (slots : Slots α) :
    slots.isEmpty = true ↔
      slots.must = [] ∧ slots.filter = [] ∧ slots.should = [] ∧ slots.mustNot = [] := by
  simp only [isEmpty, Bool.and_eq_true, List.isEmpty_iff, and_assoc]

/-- A concatenation has no clauses exactly if neither of its parts has any. -/
theorem isEmpty_append (first second : Slots α) :
    (first ++ second).isEmpty = true ↔ first.isEmpty = true ∧ second.isEmpty = true := by
  simp only [isEmpty_iff, must_append, filter_append, should_append, mustNot_append,
    List.append_eq_nil_iff]
  constructor
  · intro h
    obtain ⟨⟨hm, hm'⟩, ⟨hf, hf'⟩, ⟨hs, hs'⟩, hn, hn'⟩ := h
    exact ⟨⟨hm, hf, hs, hn⟩, hm', hf', hs', hn'⟩
  · intro h
    obtain ⟨⟨hm, hf, hs, hn⟩, hm', hf', hs', hn'⟩ := h
    exact ⟨⟨hm, hm'⟩, ⟨hf, hf'⟩, ⟨hs, hs'⟩, hn, hn'⟩

/-! ## The number of clauses -/

@[simp] theorem clauseCount_empty : ({} : Slots α).clauseCount = 0 := rfl

@[simp] theorem clauseCount_append (first second : Slots α) :
    (first ++ second).clauseCount = first.clauseCount + second.clauseCount := by
  unfold clauseCount
  simp only [must_append, filter_append, should_append, mustNot_append, List.length_append]
  omega

/-! ## Clauses that suit their slots -/

/-- Every clause suits the slot in which it stands. -/
def Forall (suits : Occur → α → Prop) (slots : Slots α) : Prop :=
  ∀ slot, ∀ clause ∈ slots.get slot, suits slot clause

variable {suits : Occur → α → Prop}

theorem forall_empty : Forall suits {} := by
  intro slot clause h
  rw [get_empty] at h
  cases h

theorem forall_append {first second : Slots α} :
    (first ++ second).Forall suits ↔ first.Forall suits ∧ second.Forall suits := by
  unfold Forall
  simp only [get_append, List.forall_mem_append, forall_and]

/-- A clause is put at the end of its slot, and the other slots stay as they are. -/
theorem get_push (slots : Slots α) (clause : α) (slot other : Occur) :
    (slots.push clause slot).get other =
      if other = slot then slots.get other ++ [clause] else slots.get other := by
  cases slot <;> cases other <;> rfl

theorem Forall.push {slots : Slots α} (h : slots.Forall suits) {slot : Occur} {clause : α}
    (hclause : suits slot clause) : (slots.push clause slot).Forall suits := by
  intro other
  rw [get_push]
  split
  · next heq =>
    subst heq
    rw [List.forall_mem_append]
    exact ⟨h other, List.forall_mem_singleton.mpr hclause⟩
  · exact h other

/-! ## Many queries in a row -/

/-- The queries of a list, one after another. -/
def concat : List (Slots α) → Slots α
  | [] => {}
  | slots :: rest => slots ++ concat rest

@[simp] theorem concat_nil : concat ([] : List (Slots α)) = {} := rfl

@[simp] theorem concat_cons (slots : Slots α) (rest : List (Slots α)) :
    concat (slots :: rest) = slots ++ concat rest := rfl

theorem concat_append (first second : List (Slots α)) :
    concat (first ++ second) = concat first ++ concat second := by
  induction first with
  | nil => rw [List.nil_append, concat_nil, empty_append]
  | cons slots rest ih => rw [List.cons_append, concat_cons, ih, concat_cons, append_assoc]

/-- A slot of a row of queries holds the clauses of that slot of each, in order. -/
theorem get_concat (list : List (Slots α)) (slot : Occur) :
    (concat list).get slot = (list.map fun slots => slots.get slot).flatten := by
  induction list with
  | nil => rw [concat_nil, get_empty, List.map_nil, List.flatten_nil]
  | cons slots rest ih =>
    rw [concat_cons, get_append, ih, List.map_cons, List.flatten_cons]

end Slots

namespace BoolQuery

/-- Attaching a fragment appends the query that holds this fragment alone. -/
theorem add_eq_append (query : BoolQuery) (occur : Occur) (fragment : Fragment) :
    query.add occur fragment = query ++ BoolQuery.add {} occur fragment := by
  cases occur <;> cases fragment <;>
    exact Slots.ext_slots (by simp [add, Slots.push]) (by simp [add, Slots.push])
      (by simp [add, Slots.push]) (by simp [add, Slots.push])

/-- Whatever the slot, an attached fragment is a clause. -/
theorem isEmpty_add (query : BoolQuery) (occur : Occur) (fragment : Fragment) :
    (query.add occur fragment).isEmpty = false := by
  cases occur <;> cases fragment <;> simp [add, Slots.push, Slots.isEmpty]

/-- Whatever the slot, an attached fragment is one clause. -/
theorem clauseCount_add (query : BoolQuery) (occur : Occur) (fragment : Fragment) :
    (query.add occur fragment).clauseCount = query.clauseCount + 1 := by
  have hone : (BoolQuery.add {} occur fragment).clauseCount = 1 := by
    cases occur <;> cases fragment <;> rfl
  rw [add_eq_append, Slots.clauseCount_append, hone]

end BoolQuery
end SearchMapper
