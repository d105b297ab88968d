import Mathlib.Data.List.Chain
import Mathlib.Data.List.TakeWhile
import SearchMapper.Date.BackendPattern

/-!
# Backend patterns read back

How the backend reads a pattern: outside quotes a run of one letter is a symbol, quotes delimit
literal text in which two of them stand for one, and any other character stands for itself. A
pattern that is assembled of pieces is read as these pieces, if no two symbols of one letter stand
side by side.
-/

namespace SearchMapper.BackendPattern

/-! ## Reading -/

/-- The literal text up to the closing quote, and what comes after it. -/
def readQuoted : List Char → Option (List Char × List Char)
  | [] => none
  | '\'' :: '\'' :: rest => (readQuoted rest).map fun (text, after) => ('\'' :: text, after)
  | '\'' :: rest => some ([], rest)
  | c :: rest => (readQuoted rest).map fun (text, after) => (c :: text, after)

theorem length_of_readQuoted {chars text after : List Char}
    (h : readQuoted chars = some (text, after)) : after.length < chars.length := by
  induction chars using readQuoted.induct generalizing text with
  | case1 => cases h
  | case2 rest ih =>
    -- a quote that is written twice
    rw [readQuoted, Option.map_eq_some_iff] at h
    obtain ⟨⟨later, after'⟩, hrest, heq⟩ := h
    cases heq
    have := ih hrest
    simp only [List.length_cons]
    omega
  | case3 rest hnext =>
    -- the closing quote
    rw [readQuoted] at h
    · cases h
      exact Nat.lt_succ_self _
    · exact hnext
  | case4 c rest hdouble hquote ih =>
    rw [readQuoted, Option.map_eq_some_iff] at h
    · obtain ⟨⟨later, after'⟩, hrest, heq⟩ := h
      cases heq
      exact Nat.lt_succ_of_lt (ih hrest)
    · exact hdouble
    · exact hquote

/-- The pieces of a pattern; none if a quote is not closed. -/
def read (chars : List Char) : Option (List Piece) :=
  match chars with
  | [] => some []
  | c :: rest =>
    if c = '\'' then
      match _h : readQuoted rest with
      | some (text, after) => (read after).map (text.map .literal ++ ·)
      | none => none
    else if c.isAlpha then
      (read (rest.dropWhile (· == c))).map (.symbol (c :: rest.takeWhile (· == c)) :: ·)
    else (read rest).map (.literal c :: ·)
termination_by chars.length
decreasing_by
  · exact Nat.lt_succ_of_lt (length_of_readQuoted ‹_›)
  · exact Nat.lt_succ_of_le (List.dropWhile_suffix _).length_le
  · exact Nat.lt_succ_self _

/-! ## Literal text -/

/-- What comes after quoted text must not begin with another quote. -/
theorem readQuoted_flatMap_quoted (text : List Char) {after : List Char}
    (hafter : after.head? ≠ some '\'') :
    readQuoted (text.flatMap quoted ++ '\'' :: after) = some (text, after) := by
  induction text with
  | nil =>
    rw [List.flatMap_nil, List.nil_append, readQuoted]
    rintro rest rfl
    exact hafter rfl
  | cons c text ih =>
    rw [List.flatMap_cons, List.append_assoc]
    by_cases hc : c = '\''
    · subst hc
      show readQuoted ('\'' :: '\'' :: (text.flatMap quoted ++ '\'' :: after)) = _
      rw [readQuoted, ih]
      rfl
    · have hquoted : quoted c = [c] := if_neg hc
      rw [hquoted, List.singleton_append, readQuoted, ih]
      · rfl
      · exact fun rest heq _ => hc heq
      · exact hc

theorem read_literal {c : Char} (hc : needsQuotes c = false) (rest : List Char) :
    read (c :: rest) = (read rest).map (.literal c :: ·) := by
  unfold needsQuotes at hc
  rw [Bool.or_eq_false_iff, beq_eq_false_iff_ne] at hc
  obtain ⟨halpha, hquote⟩ := hc
  rw [read, if_neg hquote, if_neg (Bool.eq_false_iff.mp halpha)]

/-- Literal text is read as it is, quoted or not. -/
theorem read_literalText (text : List Char) {after : List Char}
    (hafter : after.head? ≠ some '\'') :
    read (literalText text ++ after) = (read after).map (text.map .literal ++ ·) := by
  unfold literalText
  by_cases hany : text.any needsQuotes = true
  · have hquoted := readQuoted_flatMap_quoted text hafter
    rw [if_pos hany, List.cons_append, List.cons_append, List.append_assoc, List.singleton_append,
      read, if_pos rfl]
    split
    · next heq =>
      rw [hquoted] at heq
      cases heq
      rfl
    · next heq =>
      rw [hquoted] at heq
      cases heq
  · rw [if_neg hany]
    rw [List.any_eq_true, not_exists] at hany
    induction text with
    | nil => exact Option.map_id'.symm
    | cons c text ih =>
      have hc : needsQuotes c = false :=
        Bool.eq_false_iff.mpr fun hneeds => hany c ⟨List.mem_cons_self, hneeds⟩
      have htext : ∀ x, ¬ (x ∈ text ∧ needsQuotes x = true) :=
        fun x hx => hany x ⟨List.mem_cons_of_mem c hx.1, hx.2⟩
      rw [List.cons_append, read_literal hc, ih htext, Option.map_map]
      rfl

/-- Literal text never begins with a letter. -/
theorem exists_cons_literalText {text : List Char} (hne : text ≠ []) :
    ∃ c rest, literalText text = c :: rest ∧ c.isAlpha = false := by
  unfold literalText
  by_cases hany : text.any needsQuotes = true
  · rw [if_pos hany]
    exact ⟨'\'', _, rfl, rfl⟩
  · rw [if_neg hany]
    rw [List.any_eq_true, not_exists] at hany
    obtain ⟨c, rest, rfl⟩ := List.exists_cons_of_ne_nil hne
    refine ⟨c, rest, rfl, Bool.eq_false_iff.mpr fun halpha => ?_⟩
    refine hany c ⟨List.mem_cons_self, ?_⟩
    unfold needsQuotes
    rw [halpha]
    rfl

/-! ## Symbols -/

/-- A run of one letter is read as a symbol, up to a character that is not that letter. -/
theorem read_run {c : Char} (halpha : c.isAlpha = true) (n : Nat) {after : List Char}
    (hafter : after.head? ≠ some c) :
    read (List.replicate (n + 1) c ++ after) =
      (read after).map (.symbol (List.replicate (n + 1) c) :: ·) := by
  have hquote : c ≠ '\'' := by
    rintro rfl
    exact absurd halpha (by decide)
  have hall : ∀ x ∈ List.replicate n c, (x == c) = true := fun x hx =>
    beq_iff_eq.mpr (List.eq_of_mem_replicate hx)
  have hstop : after.takeWhile (· == c) = [] ∧ after.dropWhile (· == c) = after := by
    cases after with
    | nil => exact ⟨rfl, rfl⟩
    | cons x rest =>
      have hx : ¬ (x == c) = true := fun heq => hafter (congrArg some (eq_of_beq heq))
      exact ⟨List.takeWhile_cons_of_neg hx, List.dropWhile_cons_of_neg hx⟩
  -- the run is taken whole, and nothing of what comes after it
  rw [List.replicate_succ, List.cons_append, read, if_neg hquote, if_pos halpha,
    List.takeWhile_append_of_pos hall, List.dropWhile_append_of_pos hall, hstop.1, hstop.2,
    List.append_nil]

/-! ## Assembled patterns -/

namespace Piece

/-- The piece can be read by itself: a symbol is a run of one letter. -/
def IsRun : Piece → Prop
  | literal _ => True
  | symbol letters => ∃ c ∈ letters, Char.isAlpha c = true ∧ ∀ x ∈ letters, x = c

instance : DecidablePred IsRun
  | literal _ => isTrue trivial
  | symbol letters =>
    decidable_of_iff ((letters.any fun c => c.isAlpha && letters.all (· == c)) = true) <| by
      simp [IsRun]

/-- The letter of a symbol. -/
def letter? : Piece → Option Char
  | literal _ => none
  | symbol letters => letters.head?

/-- The two pieces are no symbols of the same letter. -/
def Apart (first second : Piece) : Prop :=
  first.letter? = none ∨ first.letter? ≠ second.letter?

instance : DecidableRel Apart := fun _ _ => inferInstanceAs (Decidable (_ ∨ _))

theorem IsRun.exists_replicate {letters : List Char} (h : (symbol letters).IsRun) :
    ∃ c n, Char.isAlpha c = true ∧ letters = List.replicate (n + 1) c := by
  obtain ⟨c, hmem, halpha, hall⟩ := h
  have hlength : letters.length - 1 + 1 = letters.length :=
    Nat.sub_add_cancel (List.length_pos_of_mem hmem)
  refine ⟨c, letters.length - 1, halpha, ?_⟩
  rw [hlength]
  exact List.eq_replicate_of_mem hall

end Piece

/-- A pattern begins with the letter of its first piece, if that is a symbol and nothing is left
to write before it; else it begins with no letter. -/
theorem head?_assemble {pieces : List Piece} (hruns : ∀ piece ∈ pieces, piece.IsRun)
    (pending : List Char) {c : Char} (halpha : c.isAlpha = true)
    (h : (assemble pending pieces).head? = some c) :
    pending = [] ∧ ∃ first rest, pieces = first :: rest ∧ first.letter? = some c := by
  -- the characters that are left are written before any symbol
  have hliteral : ∀ (text after : List Char), text ≠ [] →
      (literalText text ++ after).head? ≠ some c := by
    intro text after hne heq
    obtain ⟨x, rest, htext, hx⟩ := exists_cons_literalText hne
    rw [htext, List.cons_append, List.head?_cons, Option.some.injEq] at heq
    rw [heq, halpha] at hx
    cases hx
  induction pieces generalizing pending with
  | nil =>
    cases pending with
    | nil => cases h
    | cons x pending =>
      rw [assemble, ← List.append_nil (literalText _)] at h
      exact absurd h (hliteral _ _ (List.reverse_ne_nil_iff.mpr (List.cons_ne_nil x pending)))
  | cons first rest ih =>
    cases first with
    | literal x =>
      obtain ⟨hpending, -⟩ := ih (fun piece hmem => hruns piece (List.mem_cons_of_mem _ hmem)) _ h
      cases hpending
    | symbol letters =>
      rw [assemble, List.append_assoc] at h
      cases pending with
      | nil =>
        refine ⟨rfl, _, rest, rfl, ?_⟩
        obtain ⟨letter, n, -, rfl⟩ := (hruns _ List.mem_cons_self).exists_replicate
        exact h
      | cons x pending =>
        exact absurd h (hliteral _ _ (List.reverse_ne_nil_iff.mpr (List.cons_ne_nil x pending)))

/-- A pattern is read as the pieces that it is assembled of, after the literal text that was left to
write before them. -/
theorem read_assemble {pieces : List Piece} (hruns : ∀ piece ∈ pieces, piece.IsRun)
    (hapart : pieces.IsChain Piece.Apart) (pending : List Char) :
    read (assemble pending pieces) = some (pending.reverse.map .literal ++ pieces) := by
  induction pieces generalizing pending with
  | nil =>
    have hend : ([] : List Char).head? ≠ some '\'' := nofun
    rw [assemble, ← List.append_nil (literalText _), read_literalText _ hend, read]
    rfl
  | cons first rest ih =>
    have hlater : ∀ piece ∈ rest, piece.IsRun := fun piece hmem =>
      hruns piece (List.mem_cons_of_mem _ hmem)
    have hread := ih hlater hapart.of_cons
    cases first with
    | literal c =>
      -- the character joins those that are left
      rw [assemble, hread, List.reverse_cons, List.map_append, List.append_assoc]
      rfl
    | symbol letters =>
      obtain ⟨c, n, halpha, rfl⟩ := (hruns _ List.mem_cons_self).exists_replicate
      -- the rest begins with no symbol of the same letter, nor the symbol with a quote
      have hnext : (assemble [] rest).head? ≠ some c := by
        intro hhead
        obtain ⟨-, second, later, rfl, hsecond⟩ := head?_assemble hlater [] halpha hhead
        rcases (List.isChain_cons_cons.mp hapart).1 with hnone | hne
        · cases hnone
        · exact hne hsecond.symm
      have hquote : (List.replicate (n + 1) c ++ assemble [] rest).head? ≠ some '\'' := by
        rw [List.replicate_succ, List.cons_append, List.head?_cons, ne_eq, Option.some.injEq]
        rintro rfl
        exact absurd halpha (by decide)
      rw [assemble, List.append_assoc, read_literalText _ hquote, read_run halpha n hnext, hread]
      rfl

end SearchMapper.BackendPattern
