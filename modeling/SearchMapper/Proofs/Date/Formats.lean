import SearchMapper.Proofs.Date.Resolved

/-!
# Formats of whole timestamps

Formats that have a directive for every part of a timestamp, in any order, with any literal text
between them and perhaps an offset at the end. Such a format is a pattern; what is printed by it
is read by it as the same timestamp without the fraction of its second.
-/

namespace SearchMapper

/-! ## Items and directives -/

namespace DatePattern

/-- An item is printed before the others. -/
theorem print?_cons_of_some {t : Timestamp} {item : DateItem} {here : List Char}
    (h : item.print? t = some here) (items : DatePattern) :
    print? t (item :: items) = (print? t items).map (here ++ ·) := by
  show (do
    let here ← item.print? t
    let after ← print? t items
    return here ++ after) = _
  rw [h]
  cases print? t items <;> rfl

theorem isLiteral_of_ne {c : Char} (hne : c ≠ '%') (hblank : ¬ Text.isBlankChar c = true) :
    isLiteral c = true := by
  unfold isLiteral
  rw [Bool.and_eq_true, bne_iff_ne, Bool.not_eq_true']
  exact ⟨hne, Bool.eq_false_iff.mpr hblank⟩

/-- The characters that may begin a directive of more than one character. -/
def marks : List Char := ['-', '0', '_', '#', ':', '.', '3', '6', '9']

/-- Any other character is a directive of its own, or none, whatever follows it. -/
theorem directive?_of_not_mem_marks {c : Char} (h : c ∉ marks) (rest : List Char) :
    directive? (c :: rest) = (ofLetter? c).map (·, rest) := by
  unfold directive?
  -- a mark begins each of the longer directives, and the digits of a fraction
  split
  case h_10 heq =>
    have hdigits : fractionDigits? c = none := by
      unfold fractionDigits?
      split
      · exact absurd h (by decide)
      · exact absurd h (by decide)
      · exact absurd h (by decide)
      · rfl
    cases heq
    rw [hdigits]
  case h_11 heq =>
    cases heq
    rfl
  case h_12 heq => cases heq
  all_goals
    rename_i heq
    cases heq
    exact absurd h (by decide)

end DatePattern

/-! ## The text of a format -/

/-- The letter of the directive for a part. -/
def TimestampPart.letter : TimestampPart → Char
  | year => 'Y'
  | month => 'm'
  | day => 'd'
  | hour => 'H'
  | minute => 'M'
  | second => 'S'

/-- A piece of a format: a character that stands for itself, or the directive for a part. -/
inductive FormatPiece where
  | literal (c : Char)
  | directive (part : TimestampPart)
deriving DecidableEq, Repr

/-- The text of a piece. -/
def FormatPiece.chars : FormatPiece → List Char
  | literal c => [c]
  | directive part => ['%', part.letter]

/-- What stands at the end of a format: nothing, or an offset without or with a colon. -/
inductive FormatZone where
  | none
  | compact
  | colon
deriving DecidableEq, Repr

namespace FormatZone

/-- The text of the directive. -/
def chars : FormatZone → List Char
  | none => []
  | compact => ['%', 'z']
  | colon => ['%', ':', 'z']

/-- The items of the directive. -/
def items : FormatZone → DatePattern
  | none => []
  | compact => [.fixed (.offset 0)]
  | colon => [.fixed (.offset 1)]

/-- What is printed for UTC. -/
def printed : FormatZone → List Char
  | none => []
  | compact => zeroOffset 0
  | colon => zeroOffset 1

/-- The offset that is read from what is printed. -/
def offset? : FormatZone → Option Int
  | none => .none
  | _ => some 0

theorem offset?_cases (zone : FormatZone) : zone.offset? = .none ∨ zone.offset? = some 0 := by
  cases zone with
  | none => exact .inl rfl
  | _ => exact .inr rfl

end FormatZone

/-- A format that leaves no part of a timestamp out. Directives come in any order and may repeat,
and any text may stand between them. -/
structure TimestampFormat where
  pieces : List FormatPiece
  zone : FormatZone
  /-- A percent sign is no literal text. -/
  literal_ne : ∀ c, .literal c ∈ pieces → c ≠ '%'
  complete : ∀ part, .directive part ∈ pieces

namespace TimestampFormat

/-- The text of pieces and what stands at their end. -/
def charsOf (zone : FormatZone) (pieces : List FormatPiece) : List Char :=
  pieces.flatMap FormatPiece.chars ++ zone.chars

/-- The text of the format. -/
def text (format : TimestampFormat) : String :=
  String.ofList (charsOf format.zone format.pieces)

variable {zone : FormatZone} {pieces : List FormatPiece} {items : DatePattern}

theorem charsOf_literal (c : Char) (zone : FormatZone) (pieces : List FormatPiece) :
    charsOf zone (.literal c :: pieces) = c :: charsOf zone pieces := by
  unfold charsOf
  rw [List.flatMap_cons, List.append_assoc]
  rfl

theorem charsOf_directive (part : TimestampPart) (zone : FormatZone)
    (pieces : List FormatPiece) :
    charsOf zone (.directive part :: pieces) = '%' :: part.letter :: charsOf zone pieces := by
  unfold charsOf
  rw [List.flatMap_cons, List.append_assoc]
  rfl

/-! ## Cutting a format -/

/-- The items into which pieces are cut: literal text in runs, where no blank follows a run of
blanks. -/
inductive Cut (zone : FormatZone) : List FormatPiece → DatePattern → Prop where
  | zone : Cut zone [] zone.items
  | directive (part : TimestampPart) {pieces items} (h : Cut zone pieces items) :
      Cut zone (.directive part :: pieces) (DatePattern.zeroed part.numeric :: items)
  | literal (run : List Char) {pieces items} (h : Cut zone pieces items) :
      Cut zone (run.map .literal ++ pieces) (.literal run :: items)
  | blank (run : List Char) {pieces items} (hblank : ∀ c ∈ run, Text.isBlankChar c = true)
      (hnext : ∀ c rest, pieces = .literal c :: rest → Text.isBlankChar c = false)
      (h : Cut zone pieces items) :
      Cut zone (run.map .literal ++ pieces) (.blank run :: items)

/-- Literal text begins with a run of characters of a kind, up to the next directive at most. -/
theorem exists_run {p : Char → Bool} (hp : p '%' = false) (zone : FormatZone)
    (pieces : List FormatPiece) :
    ∃ run rest, pieces = run.map .literal ++ rest ∧
      (∀ c later, rest = .literal c :: later → p c = false) ∧
      (charsOf zone pieces).takeWhile p = run ∧
      (charsOf zone pieces).dropWhile p = charsOf zone rest := by
  have hpercent : ¬ p '%' = true := by
    rw [hp]
    exact Bool.false_ne_true
  -- a directive ends the run, since it begins with a percent sign
  induction pieces with
  | nil =>
    refine ⟨[], [], rfl, nofun, ?_⟩
    cases zone with
    | none => exact ⟨rfl, rfl⟩
    | compact => exact ⟨List.takeWhile_cons_of_neg hpercent, List.dropWhile_cons_of_neg hpercent⟩
    | colon => exact ⟨List.takeWhile_cons_of_neg hpercent, List.dropWhile_cons_of_neg hpercent⟩
  | cons piece pieces ih =>
    cases piece with
    | directive part =>
      refine ⟨[], .directive part :: pieces, rfl, nofun, ?_⟩
      rw [charsOf_directive]
      exact ⟨List.takeWhile_cons_of_neg hpercent, List.dropWhile_cons_of_neg hpercent⟩
    | literal c =>
      rw [charsOf_literal]
      by_cases hc : p c = true
      · obtain ⟨run, rest, hpieces, hnext, htake, hdrop⟩ := ih
        refine ⟨c :: run, rest, ?_, hnext, ?_, ?_⟩
        · rw [hpieces]
          rfl
        · rw [List.takeWhile_cons_of_pos hc, htake]
        · rw [List.dropWhile_cons_of_pos hc, hdrop]
      · refine ⟨[], .literal c :: pieces, rfl, ?_, ?_, ?_⟩
        · intro c' later heq
          cases heq
          exact Bool.eq_false_iff.mpr hc
        · exact List.takeWhile_cons_of_neg hc
        · rw [charsOf_literal]
          exact List.dropWhile_cons_of_neg hc

/-- The letter of a part is a directive of its own, whatever follows it. -/
theorem directive?_letter (part : TimestampPart) (rest : List Char) :
    DatePattern.directive? (part.letter :: rest) =
      some ([DatePattern.zeroed part.numeric], rest) := by
  cases part <;> exact DatePattern.directive?_of_not_mem_marks (by decide) rest

theorem ofChars?_percent {chars rest : List Char} {items : DatePattern}
    (h : DatePattern.directive? chars = some (items, rest)) :
    DatePattern.ofChars? ('%' :: chars) = (DatePattern.ofChars? rest).map (items ++ ·) := by
  rw [DatePattern.ofChars?, if_pos rfl]
  split
  · next heq =>
    rw [h] at heq
    cases heq
    rfl
  · next heq =>
    rw [h] at heq
    cases heq

theorem ofChars?_blank {c : Char} (hc : Text.isBlankChar c = true) (rest : List Char) :
    DatePattern.ofChars? (c :: rest) =
      (DatePattern.ofChars? (rest.dropWhile Text.isBlankChar)).map
        (.blank (c :: rest.takeWhile Text.isBlankChar) :: ·) := by
  have hne : c ≠ '%' := by
    rintro rfl
    exact absurd hc (by decide)
  rw [DatePattern.ofChars?, if_neg hne, if_pos hc]

theorem ofChars?_literal {c : Char} (hc : DatePattern.isLiteral c = true) (rest : List Char) :
    DatePattern.ofChars? (c :: rest) =
      (DatePattern.ofChars? (rest.dropWhile DatePattern.isLiteral)).map
        (.literal (c :: rest.takeWhile DatePattern.isLiteral) :: ·) := by
  unfold DatePattern.isLiteral at hc
  rw [Bool.and_eq_true, bne_iff_ne, Bool.not_eq_true'] at hc
  obtain ⟨hne, hblank⟩ := hc
  rw [DatePattern.ofChars?, if_neg hne, if_neg (Bool.eq_false_iff.mp hblank)]

theorem ofChars?_zone (zone : FormatZone) : DatePattern.ofChars? zone.chars = some zone.items := by
  have hnil : DatePattern.ofChars? [] = some [] := by rw [DatePattern.ofChars?]
  have hlast : ∀ chars items, DatePattern.directive? chars = some (items, []) →
      DatePattern.ofChars? ('%' :: chars) = some items := by
    intro chars items hdirective
    rw [ofChars?_percent hdirective, hnil, Option.map_some, List.append_nil]
  cases zone with
  | none => exact hnil
  | compact => exact hlast ['z'] _ rfl
  | colon => exact hlast [':', 'z'] _ rfl

/-- The text of pieces is a pattern, into which they are cut. -/
theorem exists_cut (zone : FormatZone) (pieces : List FormatPiece)
    (hliteral : ∀ c, .literal c ∈ pieces → c ≠ '%') :
    ∃ items, DatePattern.ofChars? (charsOf zone pieces) = some items ∧ Cut zone pieces items := by
  -- after a run of literal text the rest is shorter, and not just by one piece
  generalize hn : pieces.length = n
  induction n using Nat.strongRecOn generalizing pieces with
  | ind n ih =>
    have hrest : ∀ run rest, pieces = run ++ rest → run ≠ [] →
        ∃ items, DatePattern.ofChars? (charsOf zone rest) = some items ∧ Cut zone rest items := by
      intro run rest hpieces hrun
      have hpositive := List.length_pos_iff.mpr hrun
      have hlength := congrArg List.length hpieces
      rw [List.length_append] at hlength
      refine ih rest.length (by omega) rest (fun c hc => hliteral c ?_) rfl
      rw [hpieces]
      exact List.mem_append_right run hc
    match pieces with
    | [] => exact ⟨zone.items, ofChars?_zone zone, .zone⟩
    | .directive part :: rest =>
      obtain ⟨items, hitems, hcut⟩ := hrest [.directive part] rest rfl (List.cons_ne_nil _ _)
      refine ⟨DatePattern.zeroed part.numeric :: items, ?_, .directive part hcut⟩
      rw [charsOf_directive, ofChars?_percent (directive?_letter part _), hitems]
      rfl
    | .literal c :: rest =>
      have hne : c ≠ '%' := hliteral c List.mem_cons_self
      rw [charsOf_literal]
      by_cases hblank : Text.isBlankChar c = true
      · obtain ⟨run, later, rfl, hnext, htake, hdrop⟩ :=
          exists_run (p := Text.isBlankChar) (by decide) zone rest
        obtain ⟨items, hitems, hcut⟩ :=
          hrest ((c :: run).map .literal) later rfl (List.cons_ne_nil _ _)
        have hrun : ∀ x ∈ c :: run, Text.isBlankChar x = true := by
          rw [List.forall_mem_cons]
          refine ⟨hblank, fun x hx => ?_⟩
          rw [← htake] at hx
          exact List.mem_takeWhile_imp hx
        refine ⟨.blank (c :: run) :: items, ?_, .blank (c :: run) hrun hnext hcut⟩
        rw [ofChars?_blank hblank, htake, hdrop, hitems]
        rfl
      · have hplain := DatePattern.isLiteral_of_ne hne hblank
        obtain ⟨run, later, rfl, -, htake, hdrop⟩ :=
          exists_run (p := DatePattern.isLiteral) (by decide) zone rest
        obtain ⟨items, hitems, hcut⟩ :=
          hrest ((c :: run).map .literal) later rfl (List.cons_ne_nil _ _)
        refine ⟨.literal (c :: run) :: items, ?_, .literal (c :: run) hcut⟩
        rw [ofChars?_literal hplain, htake, hdrop, hitems]
        rfl

/-! ## Printing -/

variable {t : Timestamp}

/-- What is printed for a piece. -/
def printedPiece (t : Timestamp) : FormatPiece → List Char
  | .literal c => [c]
  | .directive part => zeroPadded part.width (part.valueAt t)

/-- What is printed for pieces and what stands at their end. -/
def printed (t : Timestamp) (zone : FormatZone) (pieces : List FormatPiece) : List Char :=
  pieces.flatMap (printedPiece t) ++ zone.printed

theorem printed_cons (piece : FormatPiece) :
    printed t zone (piece :: pieces) = printedPiece t piece ++ printed t zone pieces := by
  unfold printed
  rw [List.flatMap_cons, List.append_assoc]

/-- Literal text is printed as it is. -/
theorem printed_literals (run : List Char) :
    printed t zone (run.map .literal ++ pieces) = run ++ printed t zone pieces := by
  induction run with
  | nil => rfl
  | cons c run ih =>
    show printed t zone (.literal c :: (run.map .literal ++ pieces)) = _
    rw [printed_cons, ih]
    rfl

theorem print?_cons {item : DateItem} {here after : List Char} (hitem : item.print? t = some here)
    (hitems : DatePattern.print? t items = some after) :
    DatePattern.print? t (item :: items) = some (here ++ after) := by
  rw [DatePattern.print?_cons_of_some hitem, hitems]
  rfl

/-- The items print what the pieces stand for. -/
theorem print?_of_cut (hyear : t.HasFourDigitYear) (hclock : t.IsClock)
    (h : Cut zone pieces items) : DatePattern.print? t items = some (printed t zone pieces) := by
  induction h with
  | zone => cases zone <;> rfl
  | directive part _ ih =>
    have hpart : (DatePattern.zeroed part.numeric).print? t =
        some (zeroPadded part.width (part.valueAt t)) :=
      congrArg some (TimestampPart.print_numeric hyear hclock part)
    rw [printed_cons]
    exact print?_cons hpart ih
  | literal run _ ih =>
    rw [printed_literals]
    exact print?_cons rfl ih
  | blank run _ _ _ ih =>
    rw [printed_literals]
    exact print?_cons rfl ih

/-! ## Reading -/

/-- What is printed begins with a blank only where the format does. -/
theorem skipBlanks_printed (hyear : t.HasFourDigitYear) (hclock : t.IsClock)
    (hnext : ∀ c rest, pieces = .literal c :: rest → Text.isBlankChar c = false) :
    Text.skipBlanks (printed t zone pieces) = printed t zone pieces := by
  cases pieces with
  | nil => cases zone <;> rfl
  | cons piece rest =>
    rw [printed_cons]
    cases piece with
    | literal c =>
      have hc := hnext c rest rfl
      exact List.dropWhile_cons_of_neg (Bool.eq_false_iff.mp hc)
    | directive part =>
      exact skipBlanks_zeroPadded part.width_bounds.1 (part.valueAt_lt hyear hclock) _

/-- The offset that is printed is read. -/
theorem read_zone (zone : FormatZone) :
    readAll (zone.items.map DateItem.read) (t.allFields none) zone.printed =
      .ok (t.allFields zone.offset?, []) := by
  have hoffset : ∀ colons, Scan.offset directiveOffset (zeroOffset colons) = .ok (0, []) →
      readOffset directiveOffset (t.allFields none) (zeroOffset colons) =
        .ok (t.allFields (some 0), []) := by
    intro colons hscan
    have hblanks : Text.skipBlanks (zeroOffset colons) = zeroOffset colons := by
      unfold zeroOffset
      split <;> rfl
    refine setTo_eq_ok_iff.mpr ⟨0, ?_, rfl⟩
    rw [hblanks]
    exact hscan
  cases zone with
  | none => rfl
  | compact => exact readAll_cons (hoffset 0 rfl) []
  | colon => exact readAll_cons (hoffset 1 rfl) []

theorem mem_of_mem_literals {part : TimestampPart} (run : List Char)
    (h : FormatPiece.directive part ∈ run.map .literal ++ pieces) : .directive part ∈ pieces := by
  rcases List.mem_append.mp h with hrun | hmem
  · obtain ⟨c, -, heq⟩ := List.mem_map.mp hrun
    cases heq
  · exact hmem

/-- The items read what is printed: with the parts known before, all fields are known after. -/
theorem readAll_of_cut (hyear : t.HasFourDigitYear) (hclock : t.IsClock)
    (h : Cut zone pieces items) {parts : List TimestampPart}
    (hall : ∀ part, part ∈ parts ∨ .directive part ∈ pieces) :
    readAll (items.map DateItem.read) (t.fieldsOf parts) (printed t zone pieces) =
      .ok (t.allFields zone.offset?, []) := by
  induction h generalizing parts with
  | zone =>
    have hknown : ∀ part, part ∈ parts := fun part => (hall part).resolve_right List.not_mem_nil
    rw [fieldsOf_of_forall_mem hknown]
    exact read_zone zone
  | @directive part pieces items _ ih =>
    have hread := TimestampPart.read_numeric hyear hclock parts part (printed t zone pieces)
    -- the part of the directive is known from here on
    have hknown : ∀ other, other ∈ part :: parts ∨ .directive other ∈ pieces := by
      intro other
      rcases hall other with hmem | hmem
      · exact .inl (List.mem_cons_of_mem part hmem)
      · rcases List.mem_cons.mp hmem with heq | hmem
        · cases heq
          exact .inl List.mem_cons_self
        · exact .inr hmem
    rw [printed_cons]
    exact (readAll_cons hread _).trans (ih hknown)
  | @literal run pieces items _ ih =>
    have hread : DateItem.read (.literal run) (t.fieldsOf parts) (run ++ printed t zone pieces) =
        .ok (t.fieldsOf parts, printed t zone pieces) :=
      Except.bind_eq_ok_iff.mpr ⟨_, Scan.literal_append run _, rfl⟩
    rw [printed_literals]
    refine (readAll_cons hread _).trans (ih fun part => ?_)
    exact (hall part).imp_right (mem_of_mem_literals run)
  | @blank run pieces items hblank hnext _ ih =>
    -- the blanks are skipped, and nothing after them
    have hskip : Text.skipBlanks (run ++ printed t zone pieces) = printed t zone pieces := by
      unfold Text.skipBlanks
      rw [List.dropWhile_append_of_pos hblank]
      exact skipBlanks_printed hyear hclock hnext
    have hread : DateItem.read (.blank run) (t.fieldsOf parts) (run ++ printed t zone pieces) =
        .ok (t.fieldsOf parts, printed t zone pieces) := by
      show Except.ok (_, Text.skipBlanks (run ++ printed t zone pieces)) = _
      rw [hskip]
    rw [printed_literals]
    refine (readAll_cons hread _).trans (ih fun part => ?_)
    exact (hall part).imp_right (mem_of_mem_literals run)

/-! ## Main result -/

/-- A format is a pattern. By it a timestamp is printed, and what is printed is read as the same
timestamp without the fraction of its second. -/
theorem readInstant?_print? (format : TimestampFormat) (hyear : t.HasFourDigitYear)
    (hclock : t.IsClock) :
    ∃ pattern chars, DatePattern.parse format.text = some pattern ∧
      pattern.print? t = some chars ∧
      pattern.readInstant? (String.ofList chars) = some t.wholeSecond := by
  obtain ⟨pattern, hpattern, hcut⟩ := exists_cut format.zone format.pieces format.literal_ne
  have hparse : DatePattern.parse format.text = some pattern := by
    unfold DatePattern.parse text
    rw [String.toList_ofList]
    exact hpattern
  have hnothing : t.fieldsOf [] = {} := rfl
  have hread : pattern.read (String.ofList (printed t format.zone format.pieces)) =
      .ok (t.allFields format.zone.offset?) := by
    refine readWhole_eq_ok_iff.mpr ?_
    rw [String.toList_ofList, ← hnothing]
    exact readAll_of_cut hyear hclock hcut fun part => .inr (format.complete part)
  refine ⟨pattern, printed t format.zone format.pieces, hparse, print?_of_cut hyear hclock hcut, ?_⟩
  unfold DatePattern.readInstant?
  rw [hread]
  -- with an offset it is an instant, else a local time that is taken in UTC
  rcases format.zone.offset?_cases with hzone | hzone
  · have htimestamp : (t.allFields none).timestamp 0 = .ok t.wholeSecond :=
      timestamp_allFields hyear hclock 0
    simp only [hzone, instant_allFields_none, htimestamp]
  · simp only [hzone, instant_allFields_zero hyear hclock]

end TimestampFormat
end SearchMapper
