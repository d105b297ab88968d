import SearchMapper.Codec

/-!
# Numbers as identifiers

What numerals are, said without the readers: decimal digits, with leading zeros or without, behind
one sign at most. An identifier stands for the integer of which it is a numeral, as long as it fits
into 64 bits: numbers beyond the signed range are read as unsigned ones. The decimal text of an
integer is a numeral of it, so a number that stands for an identifier is found again from the
identifier. No text of a number is blank, so every number is an identifier.
-/

namespace SearchMapper

namespace Text

/-! ## Digits -/

theorem digitsValue_eq_ofDigitChars (start : Nat) (digits : List Char) :
    digitsValue start digits = Nat.ofDigitChars 10 digits start := rfl

theorem digitsValue_toDigits (n : Nat) : digitsValue 0 (Nat.toDigits 10 n) = n := by
  rw [digitsValue_eq_ofDigitChars, Nat.ofDigitChars_ten_toDigits]

theorem isDigit_of_mem_toDigits {n : Nat} {c : Char} (h : c ∈ Nat.toDigits 10 n) :
    c.isDigit = true := Nat.isDigit_of_mem_toDigits (by decide) (by decide) h

theorem digits?_toDigits (n : Nat) : digits? (Nat.toDigits 10 n) = some n := by
  have hne : (Nat.toDigits 10 n).isEmpty = false := by
    rw [List.isEmpty_eq_false_iff]
    exact Nat.toDigits_ne_nil
  have hall : (Nat.toDigits 10 n).all Char.isDigit = true := by
    rw [List.all_eq_true]
    intro c hc
    exact isDigit_of_mem_toDigits hc
  unfold digits?
  rw [hne, hall, digitsValue_toDigits]
  rfl

/-- The digits of a number begin with no sign. -/
theorem exists_cons_of_toDigits (n : Nat) :
    ∃ c rest, Nat.toDigits 10 n = c :: rest ∧ c ≠ '+' ∧ c ≠ '-' := by
  cases hdigits : Nat.toDigits 10 n with
  | nil => exact absurd hdigits Nat.toDigits_ne_nil
  | cons c rest =>
    have hdigit : c.isDigit = true := by
      refine isDigit_of_mem_toDigits (n := n) ?_
      rw [hdigits]
      exact List.mem_cons_self
    refine ⟨c, rest, rfl, ?_, ?_⟩
    · rintro rfl
      exact absurd hdigit (by decide)
    · rintro rfl
      exact absurd hdigit (by decide)

/-! ## Numerals -/

theorem unsigned?_toDigits (n : Nat) : unsigned? (Nat.toDigits 10 n) = some n := by
  obtain ⟨c, rest, hcons, hplus, -⟩ := exists_cons_of_toDigits n
  have hdigits := digits?_toDigits n
  rw [hcons] at hdigits ⊢
  unfold unsigned?
  split
  · next h =>
    cases h
    exact absurd rfl hplus
  · exact hdigits

theorem signed?_toDigits (n : Nat) : signed? (Nat.toDigits 10 n) = some (n : Int) := by
  obtain ⟨c, rest, hcons, -, hminus⟩ := exists_cons_of_toDigits n
  have hunsigned := unsigned?_toDigits n
  rw [hcons] at hunsigned ⊢
  unfold signed?
  split
  · next h =>
    cases h
    exact absurd rfl hminus
  · rw [hunsigned]
    rfl

/-- The text of an integer reads back as that integer. -/
theorem signed?_toString (n : Int) : signed? (toString n).toList = some n := by
  rw [Int.toString_eq_repr, Int.repr_eq_if]
  split
  · next h =>
    rw [Nat.repr_eq_ofList_toDigits, String.toList_ofList, signed?_toDigits, Int.toNat_of_nonneg h]
  · next h =>
    have htext : ("-" ++ (-n).toNat.repr).toList = '-' :: Nat.toDigits 10 (-n).toNat := by
      rw [String.toList_append, Nat.repr_eq_ofList_toDigits, String.toList_ofList,
        String.toList_ofList]
      rfl
    have hneg : -(((-n).toNat : Nat) : Int) = n := by omega
    rw [htext, signed?, digits?_toDigits]
    show some (-(((-n).toNat : Nat) : Int)) = some n
    rw [hneg]

/-! ## What numerals are -/

/-- The characters are decimal digits, one at least, that stand for the number. -/
def IsDigits (chars : List Char) (n : Nat) : Prop :=
  chars ≠ [] ∧ (∀ c ∈ chars, c.isDigit = true) ∧ Nat.ofDigitChars 10 chars 0 = n

/-- The text is a numeral of the integer: digits alone, or behind one sign. -/
inductive IsNumeral (text : String) : Int → Prop
  | digits {n : Nat} (h : IsDigits text.toList n) : IsNumeral text n
  | plus {digits : List Char} {n : Nat} (htext : text.toList = '+' :: digits)
    (h : IsDigits digits n) : IsNumeral text n
  | minus {digits : List Char} {n : Nat} (htext : text.toList = '-' :: digits)
    (h : IsDigits digits n) : IsNumeral text (-n)

theorem digits?_eq_some_iff {chars : List Char} {n : Nat} :
    digits? chars = some n ↔ IsDigits chars n := by
  unfold digits? IsDigits
  rw [Option.ite_none_right_eq_some, Option.some.injEq, Bool.and_eq_true, List.all_eq_true,
    Bool.not_eq_true', List.isEmpty_eq_false_iff, digitsValue_eq_ofDigitChars, and_assoc]

/-- A sign is no digit. -/
theorem not_isDigits_sign {sign : Char} {rest : List Char} {n : Nat}
    (hsign : sign.isDigit = false) : ¬ IsDigits (sign :: rest) n := by
  rintro ⟨-, hdigits, -⟩
  have hdigit := hdigits sign List.mem_cons_self
  rw [hsign] at hdigit
  cases hdigit

theorem unsigned?_eq_some_iff {chars : List Char} {n : Nat} :
    unsigned? chars = some n ↔
      IsDigits chars n ∨ ∃ digits, chars = '+' :: digits ∧ IsDigits digits n := by
  unfold unsigned?
  split
  · next digits =>
    rw [digits?_eq_some_iff, or_iff_right (not_isDigits_sign rfl)]
    simp
  · next hplus =>
    have hnone : ¬ ∃ digits, chars = '+' :: digits ∧ IsDigits digits n :=
      fun ⟨digits, hchars, _⟩ => hplus digits hchars
    rw [digits?_eq_some_iff, or_iff_left hnone]

theorem signed?_minus (digits : List Char) :
    signed? ('-' :: digits) = (digits? digits).map fun n : Nat => -(n : Int) := by
  rw [signed?]
  cases digits? digits <;> rfl

theorem signed?_of_not_minus {chars : List Char} (h : ∀ digits, chars ≠ '-' :: digits) :
    signed? chars = (unsigned? chars).map Int.ofNat := by
  unfold signed?
  split
  · next digits => exact absurd rfl (h digits)
  · rfl

/-- Signed numerals are read as what they stand for. -/
theorem signed?_eq_some_iff {text : String} {n : Int} :
    signed? text.toList = some n ↔ IsNumeral text n := by
  constructor
  · intro h
    by_cases hminus : ∃ digits, text.toList = '-' :: digits
    · obtain ⟨digits, htext⟩ := hminus
      rw [htext, signed?_minus] at h
      obtain ⟨m, hm, rfl⟩ := Option.map_eq_some_iff.mp h
      exact .minus htext (digits?_eq_some_iff.mp hm)
    · rw [signed?_of_not_minus fun digits htext => hminus ⟨digits, htext⟩] at h
      obtain ⟨m, hm, rfl⟩ := Option.map_eq_some_iff.mp h
      rcases unsigned?_eq_some_iff.mp hm with hdigits | ⟨digits, htext, hdigits⟩
      · exact .digits hdigits
      · exact .plus htext hdigits
  · intro h
    cases h with
    | minus htext hdigits =>
      rw [htext, signed?_minus, digits?_eq_some_iff.mpr hdigits, Option.map_some]
    | plus htext hdigits =>
      have hminus : ∀ digits, text.toList ≠ '-' :: digits := by
        rw [htext]
        intro digits heq
        cases heq
      rw [signed?_of_not_minus hminus, unsigned?_eq_some_iff.mpr (.inr ⟨_, htext, hdigits⟩)]
      rfl
    | digits hdigits =>
      have hminus : ∀ digits, text.toList ≠ '-' :: digits := by
        intro digits heq
        rw [heq] at hdigits
        exact not_isDigits_sign rfl hdigits
      rw [signed?_of_not_minus hminus, unsigned?_eq_some_iff.mpr (.inl hdigits)]
      rfl

/-- A positive number has no minus sign before it. -/
theorem unsigned?_of_isNumeral {text : String} {n : Int} (h : IsNumeral text n) (hpos : 0 < n) :
    unsigned? text.toList = some n.toNat := by
  cases h with
  | digits hdigits => exact unsigned?_eq_some_iff.mpr (.inl hdigits)
  | plus htext hdigits => exact unsigned?_eq_some_iff.mpr (.inr ⟨_, htext, hdigits⟩)
  | minus htext hdigits => omega

/-- What is read as an unsigned number is a numeral of it. -/
theorem isNumeral_of_unsigned? {text : String} {n : Nat} (h : unsigned? text.toList = some n) :
    IsNumeral text n := by
  rcases unsigned?_eq_some_iff.mp h with hdigits | ⟨digits, htext, hdigits⟩
  · exact .digits hdigits
  · exact .plus htext hdigits

/-! ## Texts of numbers -/

theorem isBlankChar_of_isDigit {c : Char} (h : c.isDigit = true) :
    isBlankChar c = false := by
  have hrange : 48 ≤ c.toNat ∧ c.toNat ≤ 57 := by
    unfold Char.isDigit at h
    rw [Bool.and_eq_true, decide_eq_true_eq, decide_eq_true_eq] at h
    exact h
  unfold isBlankChar
  simp only [Bool.or_eq_false_iff, Bool.and_eq_false_iff, decide_eq_false_iff_not,
    beq_eq_false_iff_ne]
  omega

theorem isBlank_append (first second : String) :
    isBlank (first ++ second) = (isBlank first && isBlank second) := by
  unfold isBlank
  rw [String.toList_append, List.all_append]

/-- A text with a part that is not blank is not blank. -/
theorem isBlank_append_left {first : String} (h : isBlank first = false) (second : String) :
    isBlank (first ++ second) = false := by
  rw [isBlank_append, h, Bool.false_and]

theorem isBlank_append_right (first : String) {second : String} (h : isBlank second = false) :
    isBlank (first ++ second) = false := by
  rw [isBlank_append, h, Bool.and_false]

theorem isBlank_repr (n : Nat) : isBlank n.repr = false := by
  obtain ⟨c, hc⟩ := List.exists_mem_of_ne_nil _ (Nat.toDigits_ne_nil (b := 10) (n := n))
  have hdigit : isBlankChar c = false := isBlankChar_of_isDigit (isDigit_of_mem_toDigits hc)
  unfold isBlank Nat.repr
  rw [String.toList_ofList, List.all_eq_false]
  exact ⟨c, hc, by rw [hdigit]; exact Bool.false_ne_true⟩

theorem isBlank_toString (n : Int) : isBlank (toString n) = false := by
  cases n with
  | ofNat n => exact isBlank_repr n
  | negSucc n => exact isBlank_append_right "-" (isBlank_repr (n + 1))

end Text

/-- A decimal is laid out with a point or an exponent. -/
theorem Floating.Decimal.isBlank_layout (d : Decimal) (range : PlainRange) :
    Text.isBlank (d.layout range) = false := by
  have hpoint : Text.isBlank "." = false := by decide +kernel
  have hzero : Text.isBlank ".0" = false := by decide +kernel
  have hstart : Text.isBlank "0." = false := by decide +kernel
  have hexponent : Text.isBlank "e" = false := by decide +kernel
  unfold layout withPoint
  dsimp only
  split
  · split
    · exact Text.isBlank_append_right _ hzero
    · split
      · exact Text.isBlank_append_left (Text.isBlank_append_right _ hpoint) _
      · exact Text.isBlank_append_left (Text.isBlank_append_left hstart _) _
  · -- scientific notation, whose mantissa may be without a point
    refine Text.isBlank_append_left (Text.isBlank_append_left ?_ _) _
    exact Text.isBlank_append_right _ hexponent

theorem Floating.isBlank_render (x : Double) : Text.isBlank (render x) = false := by
  have hzero : Text.isBlank "0.0" = false := by decide +kernel
  unfold render
  dsimp only
  split
  · exact Text.isBlank_append_right _ hzero
  · exact Text.isBlank_append_right _ (Decimal.isBlank_layout _ _)

theorem JsonNumber.isBlank_text (n : JsonNumber) : Text.isBlank n.text = false := by
  cases n with
  | int n range => exact Text.isBlank_toString n
  | double x finite => exact Floating.isBlank_render x

/-! ## Identifiers -/

/-- An identifier stands for the integer of 64 bits, signed or unsigned, that it is a numeral of. -/
theorem Codec.idNumber?_eq_some_iff {id : String} {value : Json} :
    idNumber? id = some value ↔
      ∃ n range, Text.IsNumeral id n ∧ value = .number (.int n range) := by
  unfold idNumber? Text.int64? Text.uint64?
  rw [Option.bind_eq_some_iff]
  constructor
  · rintro ⟨n, hn, hvalue⟩
    have hnumeral : Text.IsNumeral id n := by
      rcases Option.or_eq_some_iff.mp hn with hsigned | ⟨-, hunsigned⟩
      · exact Text.signed?_eq_some_iff.mp (Option.filter_eq_some_iff.mp hsigned).1
      · obtain ⟨m, hm, rfl⟩ := Option.map_eq_some_iff.mp hunsigned
        exact Text.isNumeral_of_unsigned? (Option.filter_eq_some_iff.mp hm).1
    unfold Json.int? at hvalue
    split at hvalue
    · next range =>
      cases hvalue
      exact ⟨n, range, hnumeral, rfl⟩
    · cases hvalue
  · rintro ⟨n, range, hnumeral, rfl⟩
    refine ⟨n, ?_, dif_pos range⟩
    rw [Text.signed?_eq_some_iff.mpr hnumeral]
    by_cases hsigned : n < 0x8000000000000000
    · rw [Option.filter_some, if_pos (by simpa using ⟨range.1, hsigned⟩), Option.some_or]
    · -- beyond the signed range the numeral is read a second time, as an unsigned one
      have hlt : n.toNat < 0x10000000000000000 := by omega
      have hsize : decide (n.toNat < UInt64.size) = true := decide_eq_true hlt
      have hvalue : Int.ofNat n.toNat = n := Int.toNat_of_nonneg (by omega)
      rw [Option.filter_some, if_neg (by simpa using fun _ => Int.not_lt.mp hsigned),
        Option.none_or, Text.unsigned?_of_isNumeral hnumeral (by omega), Option.filter_some,
        if_pos hsize, Option.map_some, hvalue]

/-- The text of an integer, as an identifier, stands for that integer. -/
theorem Codec.idNumber?_toString {n : Int}
    (h : -0x8000000000000000 ≤ n ∧ n < 0x10000000000000000) :
    idNumber? (toString n) = some (.number (.int n h)) :=
  idNumber?_eq_some_iff.mpr ⟨n, h, Text.signed?_eq_some_iff.mp (Text.signed?_toString n), rfl⟩

end SearchMapper
