import SearchMapper.Metadata.Validate

/-!
# The metadata registry

Metadata by entity type, each described once. A type is asked for its description until one
is valid; from then on the recorded description is handed out, the same record to all.
-/

namespace SearchMapper

/-- A value that all its holders share: two of them hold the same one if they name the same
place, and not merely if they hold equal values. -/
structure Shared (α : Type) where
  place : Nat
  value : α
deriving DecidableEq, Repr

/-- The valid descriptions so far, by entity type. -/
structure Registry (κ : Type) where
  records : List (κ × Shared Metadata) := []

namespace Registry
variable {κ : Type} [DecidableEq κ]

/-- The recorded description of a type. -/
def find? (registry : Registry κ) (key : κ) : Option (Shared Metadata) :=
  registry.records.lookup key

/-- The registry with one more record. -/
def add (registry : Registry κ) (key : κ) (record : Shared Metadata) : Registry κ :=
  { records := (key, record) :: registry.records }

/-- A description as the next record, in a place of its own. -/
def share (registry : Registry κ) (description : Metadata) : Shared Metadata :=
  { place := registry.records.length, value := description }

/-- What a look-up answers. -/
structure Lookup (κ : Type) where
  record : Except Invalid (Shared Metadata)
  registry : Registry κ
  /-- The type was asked for its description. -/
  described : Bool

/-- The description that a look-up answers. -/
def Lookup.result (lookup : Lookup κ) : Except Invalid Metadata :=
  lookup.record.map Shared.value

/-- Looks up a type, whose description is `description` should it be asked for it. -/
def get (registry : Registry κ) (key : κ) (description : Metadata) : Lookup κ :=
  match registry.find? key with
  | some record => { record := .ok record, registry, described := false }
  | none =>
    match description.validate with
    | .error invalid => { record := .error invalid, registry, described := true }
    | .ok () =>
      let record := registry.share description
      { record := .ok record, registry := registry.add key record, described := true }

end Registry
end SearchMapper
