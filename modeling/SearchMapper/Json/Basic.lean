import SearchMapper.Floating.Double
import SearchMapper.Json.Members

/-!
# JSON values

The dynamic values of documents and queries. A number is an exact integer of 64 bits, signed
or unsigned, or a finite double; an object holds its members sorted by name.
-/

namespace SearchMapper

/-- A number in a document. -/
inductive JsonNumber where
  | int (value : Int)
    (range : -0x8000000000000000 ≤ value ∧ value < 0x10000000000000000 := by decide)
  | double (value : Double) (finite : value.isFinite = true := by decide)
deriving DecidableEq, Repr

/-- A JSON value. -/
inductive Json where
  | null
  | bool (value : Bool)
  | number (value : JsonNumber)
  | string (value : String)
  | array (items : List Json)
  | object (members : List (String × Json))
deriving Inhabited, Repr

namespace Json

/-! ## Equality -/

mutual
/-- Equality of values is decidable. -/
protected def decEq : (a b : Json) → Decidable (a = b)
  | .null, .null => isTrue rfl
  | .bool a, .bool b => if h : a = b then isTrue (h ▸ rfl) else isFalse (by simpa using h)
  | .number a, .number b => if h : a = b then isTrue (h ▸ rfl) else isFalse (by simpa using h)
  | .string a, .string b => if h : a = b then isTrue (h ▸ rfl) else isFalse (by simpa using h)
  | .array a, .array b =>
    match decEqItems a b with
    | isTrue h => isTrue (h ▸ rfl)
    | isFalse h => isFalse (by simpa using h)
  | .object a, .object b =>
    match decEqMembers a b with
    | isTrue h => isTrue (h ▸ rfl)
    | isFalse h => isFalse (by simpa using h)
  | .null, .bool _ | .null, .number _ | .null, .string _ | .null, .array _ | .null, .object _
  | .bool _, .null | .bool _, .number _ | .bool _, .string _ | .bool _, .array _
  | .bool _, .object _ | .number _, .null | .number _, .bool _ | .number _, .string _
  | .number _, .array _ | .number _, .object _ | .string _, .null | .string _, .bool _
  | .string _, .number _ | .string _, .array _ | .string _, .object _ | .array _, .null
  | .array _, .bool _ | .array _, .number _ | .array _, .string _ | .array _, .object _
  | .object _, .null | .object _, .bool _ | .object _, .number _ | .object _, .string _
  | .object _, .array _ => isFalse (by simp)

/-- Equality of item lists is decidable. -/
def decEqItems : (a b : List Json) → Decidable (a = b)
  | [], [] => isTrue rfl
  | [], _ :: _ | _ :: _, [] => isFalse (by simp)
  | x :: xs, y :: ys =>
    match Json.decEq x y, decEqItems xs ys with
    | isTrue h, isTrue h' => isTrue (h ▸ h' ▸ rfl)
    | isFalse h, _ => isFalse (by simp [h])
    | _, isFalse h => isFalse (by simp [h])

/-- Equality of member lists is decidable. -/
def decEqMembers : (a b : List (String × Json)) → Decidable (a = b)
  | [], [] => isTrue rfl
  | [], _ :: _ | _ :: _, [] => isFalse (by simp)
  | (k, x) :: xs, (l, y) :: ys =>
    if hk : k = l then
      match Json.decEq x y, decEqMembers xs ys with
      | isTrue h, isTrue h' => isTrue (hk ▸ h ▸ h' ▸ rfl)
      | isFalse h, _ => isFalse (by simp [h])
      | _, isFalse h => isFalse (by simp [h])
    else isFalse (by simp [hk])
end

instance : DecidableEq Json := Json.decEq

/-! ## Building values -/

/-- An unsigned integer of 64 bits. -/
def uint64 (n : UInt64) : Json :=
  .number (.int n.toNat ⟨by omega, by have := n.toNat_lt; omega⟩)

/-- An unsigned integer of 32 bits. -/
def uint32 (n : UInt32) : Json :=
  .number (.int n.toNat ⟨by omega, by have := n.toNat_lt; omega⟩)

/-- An unsigned integer of 16 bits. -/
def uint16 (n : UInt16) : Json :=
  .number (.int n.toNat ⟨by omega, by have := n.toNat_lt; omega⟩)

/-- An integer, if it fits into 64 bits, signed or unsigned. -/
def int? (n : Int) : Option Json :=
  if h : -0x8000000000000000 ≤ n ∧ n < 0x10000000000000000 then some (.number (.int n h)) else none

/-- A double; one that is not finite has no JSON number and is written as null. -/
def ofDouble (x : Double) : Json :=
  if h : x.isFinite then .number (.double x h) else .null

/-- A single, written as the double of the same value. -/
def ofSingle (x : Single) : Json :=
  if x.isFinite then ofDouble x.toDouble else .null

/-- An object with the given members; of two with one name the later counts. -/
def ofPairs (pairs : List (String × Json)) : Json :=
  .object (Members.ofPairs pairs)

/-- An object with one member. -/
def single (name : String) (value : Json) : Json :=
  .object [(name, value)]

/-- An array of texts. -/
def strings (texts : List String) : Json :=
  .array (texts.map .string)

/-- A text, or null without one. -/
def optionString : Option String → Json
  | none => .null
  | some text => .string text

/-! ## Reading values -/

/-- The value is null. -/
def isNull : Json → Bool
  | .null => true
  | _ => false

/-- The member of an object under a name; none for any other value. -/
def member? (name : String) : Json → Option Json
  | .object members => Members.find? name members
  | _ => none

/-- The text of a string. -/
def string? : Json → Option String
  | .string text => some text
  | _ => none

/-- The truth value of a boolean. -/
def bool? : Json → Option Bool
  | .bool b => some b
  | _ => none

/-- The items of an array. -/
def array? : Json → Option (List Json)
  | .array items => some items
  | _ => none

/-- The value of an integer number. -/
def int64? : Json → Option Int
  | .number (.int n _) => some n
  | _ => none

/-- The value of a non-negative integer number. -/
def uint64? : Json → Option UInt64
  | .number (.int n _) => if 0 ≤ n then some (UInt64.ofNat n.toNat) else none
  | _ => none

/-- The value of any number as a double. -/
def double? : Json → Option Double
  | .number (.int n _) => some (.ofInt n)
  | .number (.double x _) => some x
  | _ => none

/-- The value of any number as a single. -/
def single? : Json → Option Single
  | .number (.int n _) => some (.ofInt n)
  | .number (.double x _) => some (.ofDouble x)
  | _ => none

end Json
end SearchMapper
