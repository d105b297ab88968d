/-!
# Members

The members of a JSON object: pairs of a name and a value, kept sorted by name, each name
once. The order is that of code points, so equal objects have equal member lists and print
alike. Looking up, inserting and erasing obey the laws below on every list.
-/

namespace SearchMapper

/-- Named values in the order of their names. -/
abbrev Members (α : Type) := List (String × α)

namespace Members
variable {α : Type}

/-- The value under a name. -/
def find? (name : String) : Members α → Option α
  | [] => none
  | (key, value) :: rest => if name = key then some value else find? name rest

/-- The name has a value. -/
def contains (name : String) (members : Members α) : Bool :=
  (find? name members).isSome

/-- Puts a value under a name, in its place by the order of names, over an earlier one. -/
def insert (name : String) (value : α) : Members α → Members α
  | [] => [(name, value)]
  | (key, old) :: rest =>
    if name = key then (name, value) :: rest
    else if name < key then (name, value) :: (key, old) :: rest
    else (key, old) :: insert name value rest

/-- Puts a value under a name if there is one to put. -/
def insertSome (name : String) : Option α → Members α → Members α
  | none, members => members
  | some value, members => insert name value members

/-- Leaves out a name. -/
def erase (name : String) : Members α → Members α
  | [] => []
  | (key, value) :: rest => if name = key then erase name rest else (key, value) :: erase name rest

/-- The members with the given pairs; of two pairs of one name the later counts. -/
def ofPairs (pairs : List (String × α)) : Members α :=
  pairs.foldl (fun members (name, value) => insert name value members) []

@[simp] theorem find?_nil (name : String) : find? name ([] : Members α) = none := rfl

theorem find?_insert (name key : String) (value : α) (members : Members α) :
    find? key (insert name value members) =
      if key = name then some value else find? key members := by
  induction members with
  | nil => simp [insert, find?]
  | cons head rest ih =>
    obtain ⟨k, v⟩ := head
    by_cases hk : name = k
    · subst hk
      by_cases h : key = name <;> simp [insert, find?, h]
    · by_cases hlt : name < k
      · simp [insert, find?, hk, hlt]
      · by_cases h : key = k
        · subst h
          simp [insert, find?, hk, hlt, Ne.symm hk]
        · simp [insert, find?, hk, hlt, h, ih]

@[simp] theorem find?_insert_self (name : String) (value : α) (members : Members α) :
    find? name (insert name value members) = some value := by
  simp [find?_insert]

theorem find?_insert_of_ne {name key : String} (h : key ≠ name) (value : α)
    (members : Members α) : find? key (insert name value members) = find? key members := by
  simp [find?_insert, h]

theorem find?_erase (name key : String) (members : Members α) :
    find? key (erase name members) = if key = name then none else find? key members := by
  induction members with
  | nil => simp [erase]
  | cons head rest ih =>
    obtain ⟨k, v⟩ := head
    by_cases hk : name = k
    · subst hk
      by_cases h : key = name
      · subst h
        simpa [erase] using ih
      · simp [erase, find?, h, ih]
    · by_cases h : key = k
      · subst h
        simp [erase, find?, hk, Ne.symm hk]
      · simp [erase, find?, hk, h, ih]

/-- A second value under the same name replaces the first. -/
theorem insert_insert (name : String) (first second : α) (members : Members α) :
    insert name second (insert name first members) = insert name second members := by
  induction members with
  | nil => simp [insert]
  | cons head rest ih =>
    obtain ⟨k, v⟩ := head
    by_cases hk : name = k
    · simp [insert, hk]
    · by_cases hlt : name < k
      · simp [insert, hk, hlt]
      · simp [insert, hk, hlt, ih]

end Members
end SearchMapper
