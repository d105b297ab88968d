import Mathlib.Data.List.TakeWhile
import SearchMapper.Codec
import SearchMapper.Proofs.Text.Numerals

/-!
# Padded numbers read back

A number that is filled up with zeros to a width has that many digits, if it has no more of its
own. A scan of at most that many digits reads it, whatever text comes after it.
-/

namespace SearchMapper

/-! ## Digits -/

theorem digitsValue_zeroPadded (width n : Nat) : Text.digitsValue 0 (zeroPadded width n) = n := by
  unfold zeroPadded fillLeft decimalDigits
  rw [Text.digitsValue_eq_ofDigitChars, Nat.ofDigitChars_append, Nat.ofDigitChars_replicate_zero,
    Nat.mul_zero, Nat.ofDigitChars_ten_toDigits]

theorem isDigit_of_mem_zeroPadded {width n : Nat} {c : Char} (h : c ∈ zeroPadded width n) :
    c.isDigit = true := by
  rcases List.mem_append.mp h with hfill | hdigit
  · rw [List.eq_of_mem_replicate hfill]
    rfl
  · exact Text.isDigit_of_mem_toDigits hdigit

theorem length_zeroPadded {width n : Nat} (hwidth : 0 < width) (h : n < Nat.pow 10 width) :
    (zeroPadded width n).length = width := by
  have hdigits : (Nat.toDigits 10 n).length ≤ width :=
    (Nat.length_toDigits_le_iff (by decide) hwidth).mpr h
  unfold zeroPadded fillLeft decimalDigits
  rw [List.length_append, List.length_replicate]
  omega

/-- A padded number begins with a digit. -/
theorem exists_cons_of_zeroPadded {width n : Nat} (hwidth : 0 < width)
    (h : n < Nat.pow 10 width) :
    ∃ c rest, zeroPadded width n = c :: rest ∧ c.isDigit = true := by
  have hlength := length_zeroPadded hwidth h
  cases hchars : zeroPadded width n with
  | nil =>
    rw [hchars] at hlength
    exact absurd hlength (Nat.ne_of_lt hwidth)
  | cons c rest =>
    have hmem : c ∈ zeroPadded width n := by
      rw [hchars]
      exact List.mem_cons_self
    exact ⟨c, rest, rfl, isDigit_of_mem_zeroPadded hmem⟩

theorem skipBlanks_zeroPadded {width n : Nat} (hwidth : 0 < width) (h : n < Nat.pow 10 width)
    (rest : List Char) :
    Text.skipBlanks (zeroPadded width n ++ rest) = zeroPadded width n ++ rest := by
  obtain ⟨c, tail, hchars, hdigit⟩ := exists_cons_of_zeroPadded hwidth h
  rw [hchars]
  refine List.dropWhile_cons_of_neg ?_
  rw [Text.isBlankChar_of_isDigit hdigit]
  exact Bool.false_ne_true

/-! ## Slots -/

/-- A slot of two digits holds a number below one hundred. -/
theorem twoPlaces_zero {n : Nat} (h : n < 100) : twoPlaces .zero n = zeroPadded 2 n := by
  have hall : ∀ n < 100, twoPlaces .zero n = zeroPadded 2 n := by decide +kernel
  exact hall n h

/-- A year of four digits needs no sign. -/
theorem yearPlaces_zero {year : Int} (h : 0 ≤ year ∧ year ≤ 9999) :
    yearPlaces .zero year = zeroPadded 4 year.toNat := by
  have hsign : (decide (year < 0) || decide (9999 < year)) = false := by
    rw [decide_eq_false (by omega), decide_eq_false (by omega)]
    rfl
  have hnone : signOf false year = [] := if_neg (by omega)
  have habs : year.natAbs = year.toNat := by omega
  unfold yearPlaces manyPlaces signedZeroPadded
  simp only [hsign, hnone, habs]
  rfl

/-! ## Scanning -/

namespace Scan

theorem foldl_utf8Size (chars : List Char) (start : Nat) :
    chars.foldl (fun n c => n + c.utf8Size) start = start + byteLength chars := by
  induction chars generalizing start with
  | nil => rfl
  | cons c rest ih =>
    unfold byteLength
    rw [List.foldl_cons, List.foldl_cons, ih, ih]
    omega

theorem byteLength_append (chars later : List Char) :
    byteLength (chars ++ later) = byteLength chars + byteLength later := by
  show (chars ++ later).foldl (fun n c => n + c.utf8Size) 0 = _
  rw [List.foldl_append, foldl_utf8Size later]
  rfl

/-- A text has at least as many bytes as characters. -/
theorem length_le_byteLength (chars : List Char) : chars.length ≤ byteLength chars := by
  induction chars with
  | nil => exact Nat.le_refl _
  | cons c rest ih =>
    have hsize := c.utf8Size_pos
    have hcons : byteLength (c :: rest) = byteLength [c] + byteLength rest :=
      byteLength_append [c] rest
    have hone : byteLength [c] = c.utf8Size := Nat.zero_add _
    rw [List.length_cons]
    omega

/-- A fixed text is read where it stands. -/
theorem literal_append (text rest : List Char) : literal text (text ++ rest) = .ok rest := by
  have hbytes : ¬ byteLength (text ++ rest) < byteLength text := by
    rw [byteLength_append]
    omega
  have hprefix : text.isPrefixOf (text ++ rest) = true :=
    List.isPrefixOf_iff_prefix.mpr (List.prefix_append text rest)
  unfold literal
  rw [if_neg hbytes, if_pos hprefix, List.drop_left]

/-- A padded number is what a scan of its width finds, whatever comes after it. -/
theorem leadingDigits_zeroPadded {width n : Nat} (hwidth : 0 < width) (h : n < Nat.pow 10 width)
    (rest : List Char) :
    leadingDigits (some width) (zeroPadded width n ++ rest) = zeroPadded width n := by
  have htake : (zeroPadded width n ++ rest).take width = zeroPadded width n :=
    List.take_left' (length_zeroPadded hwidth h)
  show ((zeroPadded width n ++ rest).take width).takeWhile Char.isDigit = _
  rw [htake]
  exact List.takeWhile_eq_self_iff.mpr fun c hc => isDigit_of_mem_zeroPadded hc

theorem number_zeroPadded {least width n : Nat} (hwidth : 0 < width ∧ width ≤ 9)
    (hleast : least ≤ width) (h : n < Nat.pow 10 width) (rest : List Char) :
    number least (some width) (zeroPadded width n ++ rest) = .ok ((n : Int), rest) := by
  have hlength := length_zeroPadded hwidth.1 h
  have hbytes : ¬ byteLength (zeroPadded width n ++ rest) < least := by
    have := length_le_byteLength (zeroPadded width n ++ rest)
    rw [List.length_append] at this
    omega
  have hmax : ¬ maxInt64 < n := by
    have hlimit : Nat.pow 10 width ≤ Nat.pow 10 9 := Nat.pow_le_pow_right (by decide) hwidth.2
    have hten : Nat.pow 10 9 ≤ maxInt64 := by decide
    omega
  unfold number
  simp only [leadingDigits_zeroPadded hwidth.1 h, digitsValue_zeroPadded, hlength]
  rw [if_neg hbytes, if_neg (Nat.not_lt.mpr hleast), if_neg hmax, List.drop_left' hlength]

/-- A padded number has no sign, so it is read up to the limit of its digits. -/
theorem signedNumber_zeroPadded {width n : Nat} (hwidth : 0 < width ∧ width ≤ 9)
    (h : n < Nat.pow 10 width) (rest : List Char) :
    signedNumber width (zeroPadded width n ++ rest) = .ok ((n : Int), rest) := by
  have hnumber : number 1 (some width) (zeroPadded width n ++ rest) = .ok ((n : Int), rest) :=
    number_zeroPadded hwidth hwidth.1 h rest
  obtain ⟨c, tail, hchars, hdigit⟩ := exists_cons_of_zeroPadded hwidth.1 h
  rw [hchars, List.cons_append] at hnumber ⊢
  unfold signedNumber
  split
  · next heq =>
    cases heq
    exact absurd hdigit (by decide)
  · next heq =>
    cases heq
    exact absurd hdigit (by decide)
  · exact hnumber

end Scan
end SearchMapper
