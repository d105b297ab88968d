import Mathlib.Data.String.Basic
import SearchMapper.Json.Members

/-!
# Sorted members

Objects hold their members sorted by name, so an object is determined by what it has under each
name. Inserting keeps members sorted, and inserting what is there already changes nothing.
-/

namespace SearchMapper.Members

variable {α : Type}

/-- The members stand in the order of their names, each name once. -/
def Sorted (members : Members α) : Prop := members.Pairwise fun a b => a.1 < b.1

theorem sorted_nil : Sorted ([] : Members α) := List.Pairwise.nil

theorem sorted_cons {key : String} {value : α} {rest : Members α} :
    Sorted ((key, value) :: rest) ↔ (∀ member ∈ rest, key < member.1) ∧ Sorted rest :=
  List.pairwise_cons

theorem mem_insert {name : String} {value : α} {members : Members α} {member : String × α}
    (h : member ∈ insert name value members) : member = (name, value) ∨ member ∈ members := by
  induction members with
  | nil =>
    rw [insert, List.mem_singleton] at h
    exact .inl h
  | cons head rest ih =>
    obtain ⟨key, old⟩ := head
    unfold insert at h
    split at h
    · rcases List.mem_cons.mp h with h | h
      · exact .inl h
      · exact .inr (List.mem_cons_of_mem _ h)
    · split at h
      · rcases List.mem_cons.mp h with h | h
        · exact .inl h
        · exact .inr h
      · rcases List.mem_cons.mp h with h | h
        · exact .inr (h ▸ List.mem_cons_self)
        · exact (ih h).imp_right (List.mem_cons_of_mem _)

/-- Inserting keeps members sorted. -/
theorem Sorted.insert {members : Members α} (h : members.Sorted) (name : String) (value : α) :
    (insert name value members).Sorted := by
  induction members with
  | nil => exact List.pairwise_singleton _ _
  | cons head rest ih =>
    obtain ⟨key, old⟩ := head
    obtain ⟨hhead, hrest⟩ := sorted_cons.mp h
    unfold Members.insert
    split
    · next heq =>
      subst heq
      exact sorted_cons.mpr ⟨hhead, hrest⟩
    · next hne =>
      split
      · next hlt =>
        refine sorted_cons.mpr ⟨?_, h⟩
        intro member hmem
        rcases List.mem_cons.mp hmem with rfl | hmem
        · exact hlt
        · exact hlt.trans (hhead member hmem)
      · next hnlt =>
        refine sorted_cons.mpr ⟨?_, ih hrest⟩
        intro member hmem
        rcases mem_insert hmem with rfl | hmem
        · exact lt_of_le_of_ne (not_lt.mp hnlt) (Ne.symm hne)
        · exact hhead member hmem

theorem mem_of_find? {name : String} {value : α} {members : Members α}
    (h : find? name members = some value) : (name, value) ∈ members := by
  induction members with
  | nil => cases h
  | cons head rest ih =>
    obtain ⟨key, first⟩ := head
    unfold find? at h
    split at h
    · next heq =>
      cases h
      rw [heq]
      exact List.mem_cons_self
    · exact List.mem_cons_of_mem _ (ih h)

/-- Names outside the order of a sorted list are not in it. -/
theorem find?_eq_none_of_lt {name : String} {members : Members α}
    (h : ∀ member ∈ members, name < member.1) : find? name members = none := by
  induction members with
  | nil => rfl
  | cons head rest ih =>
    obtain ⟨key, value⟩ := head
    have hne : name ≠ key := (h (key, value) List.mem_cons_self).ne
    rw [find?, if_neg hne]
    exact ih fun member hmem => h member (List.mem_cons_of_mem _ hmem)

/-- Sorted members are determined by what they have under each name. -/
theorem Sorted.ext {first second : Members α} (hfirst : first.Sorted) (hsecond : second.Sorted)
    (h : ∀ name, find? name first = find? name second) : first = second := by
  induction first generalizing second with
  | nil =>
    cases second with
    | nil => rfl
    | cons head rest =>
      have hhead := h head.1
      rw [find?, find?, if_pos rfl] at hhead
      cases hhead
  | cons head rest ih =>
    obtain ⟨key, value⟩ := head
    cases second with
    | nil =>
      have hhead := h key
      rw [find?, find?, if_pos rfl] at hhead
      cases hhead
    | cons head' rest' =>
      obtain ⟨key', value'⟩ := head'
      obtain ⟨hlt, hrest⟩ := sorted_cons.mp hfirst
      obtain ⟨hlt', hrest'⟩ := sorted_cons.mp hsecond
      -- the smaller of the two first names would be missing on the other side
      have hkey : key = key' := by
        rcases lt_trichotomy key key' with hless | heq | hless
        · have hmissing : find? key ((key', value') :: rest') = none := by
            refine find?_eq_none_of_lt fun member hmem => ?_
            rcases List.mem_cons.mp hmem with rfl | hmem
            · exact hless
            · exact hless.trans (hlt' member hmem)
          rw [← h key, find?, if_pos rfl] at hmissing
          cases hmissing
        · exact heq
        · have hmissing : find? key' ((key, value) :: rest) = none := by
            refine find?_eq_none_of_lt fun member hmem => ?_
            rcases List.mem_cons.mp hmem with rfl | hmem
            · exact hless
            · exact hless.trans (hlt member hmem)
          rw [h key', find?, if_pos rfl] at hmissing
          cases hmissing
      subst hkey
      have hvalue : value = value' := by
        have hhead := h key
        rw [find?, find?, if_pos rfl, if_pos rfl] at hhead
        exact Option.some.inj hhead
      have hsame : rest = rest' := by
        refine ih hrest hrest' fun name => ?_
        by_cases hname : name = key
        · subst hname
          rw [find?_eq_none_of_lt hlt, find?_eq_none_of_lt hlt']
        · have hhead := h name
          rwa [find?, find?, if_neg hname, if_neg hname] at hhead
      rw [hvalue, hsame]

/-- Inserting what sorted members have already changes nothing. -/
theorem Sorted.insert_of_find? {members : Members α} (h : members.Sorted) {name : String}
    {value : α} (hfind : find? name members = some value) :
    Members.insert name value members = members := by
  refine (h.insert name value).ext h fun key => ?_
  rw [find?_insert]
  split
  · next heq => rw [heq, hfind]
  · rfl

end SearchMapper.Members
