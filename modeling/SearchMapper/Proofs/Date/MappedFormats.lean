import SearchMapper.Proofs.Date.BackendReading
import SearchMapper.Proofs.Date.Formats

/-!
# Formats that the backend knows

Formats whose directives all have a symbol of the backend, with any literal text between them. The
backend's pattern for such a format is read as these symbols and this text, and what is written by
the format matches the pattern: each symbol stands for what its directive writes.
-/

namespace SearchMapper

/-! ## Writing along the text of a format -/

namespace DatePattern

variable {t : Timestamp}

/-- What is written of an instant by the text of a format. -/
def written? (t : Timestamp) (chars : List Char) : Option (List Char) :=
  (ofChars? chars).bind (print? t)

/-- A directive is written before the rest. -/
theorem written?_directive {chars rest here : List Char} {item : DateItem}
    (h : directive? chars = some ([item], rest)) (hitem : item.print? t = some here) :
    written? t ('%' :: chars) = (written? t rest).map (here ++ ·) := by
  unfold written?
  rw [TimestampFormat.ofChars?_percent h]
  cases ofChars? rest with
  | none => rfl
  | some items => exact print?_cons_of_some hitem items

/-- A character of a kind that is cut in runs, and written as it is. -/
structure IsCut (p : Char → Bool) (item : List Char → DateItem) : Prop where
  print : ∀ t text, (item text).print? t = some text
  run : ∀ c rest, p c = true →
    ofChars? (c :: rest) = (ofChars? (rest.dropWhile p)).map (item (c :: rest.takeWhile p) :: ·)

theorem isCut_blank : IsCut Text.isBlankChar .blank :=
  ⟨fun _ _ => rfl, fun _ rest hc => TimestampFormat.ofChars?_blank hc rest⟩

theorem isCut_literal : IsCut isLiteral .literal :=
  ⟨fun _ _ => rfl, fun _ rest hc => TimestampFormat.ofChars?_literal hc rest⟩

/-- A run is written before the rest. -/
theorem IsCut.written?_run {p : Char → Bool} {item : List Char → DateItem} (h : IsCut p item)
    {c : Char} (hc : p c = true) (rest : List Char) :
    written? t (c :: rest) =
      (written? t (rest.dropWhile p)).map (c :: rest.takeWhile p ++ ·) := by
  unfold written?
  rw [h.run c rest hc]
  cases ofChars? (rest.dropWhile p) with
  | none => rfl
  | some items => exact print?_cons_of_some (h.print t _) items

/-- A run is as good as its characters one by one. -/
theorem IsCut.written?_cons {p : Char → Bool} {item : List Char → DateItem} (h : IsCut p item)
    {c : Char} (hc : p c = true) (rest : List Char) :
    written? t (c :: rest) = (written? t rest).map (c :: ·) := by
  -- the rest goes on with the same run, or its run is empty
  have hrest : written? t rest = (written? t (rest.dropWhile p)).map (rest.takeWhile p ++ ·) := by
    cases rest with
    | nil => exact Option.map_id'.symm
    | cons x rest =>
      by_cases hx : p x = true
      · rw [List.takeWhile_cons_of_pos hx, List.dropWhile_cons_of_pos hx]
        exact h.written?_run hx rest
      · rw [List.takeWhile_cons_of_neg hx, List.dropWhile_cons_of_neg hx]
        exact Option.map_id'.symm
  rw [h.written?_run hc rest, hrest, Option.map_map]
  rfl

/-- Any character but a percent sign is written as it is. -/
theorem written?_cons {c : Char} (hc : c ≠ '%') (rest : List Char) :
    written? t (c :: rest) = (written? t rest).map (c :: ·) := by
  by_cases hblank : Text.isBlankChar c = true
  · exact isCut_blank.written?_cons hblank rest
  · exact isCut_literal.written?_cons (isLiteral_of_ne hc hblank) rest

end DatePattern

/-! ## Directives with a symbol -/

/-- A directive for which the backend has a symbol. -/
inductive MappedDirective where
  | year
  | yearOfCentury
  | month
  | shortMonth
  | day
  | ordinal
  | hour
  | minute
  | second
  | nanosecond
  | offset
  /-- An offset with a colon. -/
  | colonOffset
deriving DecidableEq, Repr

namespace MappedDirective

/-- The text of the directive after its percent sign. -/
def letters : MappedDirective → List Char
  | year => ['Y']
  | yearOfCentury => ['y']
  | month => ['m']
  | shortMonth => ['b']
  | day => ['d']
  | ordinal => ['j']
  | hour => ['H']
  | minute => ['M']
  | second => ['S']
  | nanosecond => ['f']
  | offset => ['z']
  | colonOffset => [':', 'z']

/-- The symbol of the backend. -/
def symbol : MappedDirective → List Char
  | year => "yyyy".toList
  | yearOfCentury => "yy".toList
  | month => "MM".toList
  | shortMonth => "MMM".toList
  | day => "dd".toList
  | ordinal => "DDD".toList
  | hour => "HH".toList
  | minute => "mm".toList
  | second => "ss".toList
  | nanosecond => "SSSSSSSSS".toList
  | offset => "Z".toList
  | colonOffset => "XXX".toList

/-- The item that the directive is cut into. -/
def item : MappedDirective → DateItem
  | year => DatePattern.zeroed .year
  | yearOfCentury => DatePattern.zeroed .yearOfCentury
  | month => DatePattern.zeroed .month
  | shortMonth => .fixed .shortMonth
  | day => DatePattern.zeroed .day
  | ordinal => DatePattern.zeroed .ordinal
  | hour => DatePattern.zeroed .hour
  | minute => DatePattern.zeroed .minute
  | second => DatePattern.zeroed .second
  | nanosecond => DatePattern.zeroed .nanosecond
  | offset => .fixed (.offset 0)
  | colonOffset => .fixed (.offset 1)

theorem directive?_letters (directive : MappedDirective) (rest : List Char) :
    DatePattern.directive? (directive.letters ++ rest) = some ([directive.item], rest) := by
  cases directive with
  | colonOffset => rfl
  | _ => exact DatePattern.directive?_of_not_mem_marks (by decide) rest

theorem pieces_letters (directive : MappedDirective) (rest : List Char) :
    BackendPattern.pieces ('%' :: directive.letters ++ rest) =
      .symbol directive.symbol :: BackendPattern.pieces rest := by
  cases directive <;> rfl

theorem isRun_symbol (directive : MappedDirective) :
    (BackendPattern.Piece.symbol directive.symbol).IsRun := by
  cases directive <;> decide

end MappedDirective

/-! ## Formats of such directives -/

/-- A piece of a format: a character that stands for itself, a percent sign, which is written
twice, or a directive with a symbol. -/
inductive MappedPiece where
  | literal (c : Char)
  | percent
  | directive (kind : MappedDirective)
deriving DecidableEq, Repr

namespace MappedPiece

/-- The text of a piece. -/
def chars : MappedPiece → List Char
  | literal c => [c]
  | percent => ['%', '%']
  | directive kind => '%' :: kind.letters

/-- The piece of the backend's pattern. -/
def mapped : MappedPiece → BackendPattern.Piece
  | literal c => .literal c
  | percent => .literal '%'
  | directive kind => .symbol kind.symbol

end MappedPiece

/-- A format of directives with symbols and literal text, where no two directives side by side have
symbols of the same letter. -/
structure MappedFormat where
  pieces : List MappedPiece
  /-- A percent sign by itself is no literal text. -/
  literal_ne : ∀ c, .literal c ∈ pieces → c ≠ '%'
  apart : (pieces.map MappedPiece.mapped).IsChain BackendPattern.Piece.Apart

namespace MappedFormat

/-- The text of the format. -/
def text (format : MappedFormat) : String :=
  String.ofList (format.pieces.flatMap MappedPiece.chars)

/-- What the backend's pattern says. -/
def mapped (format : MappedFormat) : List BackendPattern.Piece :=
  format.pieces.map MappedPiece.mapped

theorem pieces_cons_of_ne {c : Char} (hc : c ≠ '%') (rest : List Char) :
    BackendPattern.pieces (c :: rest) = .literal c :: BackendPattern.pieces rest := by
  rw [BackendPattern.pieces]
  · exact fun _ heq _ => hc heq
  · exact fun _ heq _ => hc heq
  · exact fun _ _ heq _ => hc heq

/-- The text of pieces is taken apart into them. -/
theorem pieces_flatMap_chars {pieces : List MappedPiece}
    (hliteral : ∀ c, .literal c ∈ pieces → c ≠ '%') :
    BackendPattern.pieces (pieces.flatMap MappedPiece.chars) =
      pieces.map MappedPiece.mapped := by
  induction pieces with
  | nil => rfl
  | cons piece rest ih =>
    have hrest := ih fun c hc => hliteral c (List.mem_cons_of_mem piece hc)
    rw [List.flatMap_cons, List.map_cons, ← hrest]
    cases piece with
    | literal c => exact pieces_cons_of_ne (hliteral c List.mem_cons_self) _
    | percent => rfl
    | directive kind => exact kind.pieces_letters _

/-- The backend reads the symbols and the literal text of the format. -/
theorem read_ofFormat (format : MappedFormat) :
    BackendPattern.read (BackendPattern.ofFormat format.text).toList = some format.mapped := by
  have hruns : ∀ piece ∈ format.mapped, piece.IsRun := by
    intro piece hmem
    obtain ⟨piece, -, rfl⟩ := List.mem_map.mp hmem
    cases piece with
    | literal c => exact trivial
    | percent => exact trivial
    | directive kind => exact kind.isRun_symbol
  unfold BackendPattern.ofFormat text
  rw [String.toList_ofList, String.toList_ofList, pieces_flatMap_chars format.literal_ne]
  exact BackendPattern.read_assemble hruns format.apart []

end MappedFormat

/-! ## What symbols stand for -/

/-- The instant has a year of the common era with four digits, and is not in a leap second. -/
structure Timestamp.IsOrdinary (t : Timestamp) : Prop where
  year : 1 ≤ t.date.year ∧ t.date.year ≤ 9999
  nanos_lt : t.nanos < nanosPerSecond

/-- The text that the backend takes under a symbol for an instant in UTC. -/
inductive SymbolText (t : Timestamp) : List Char → List Char → Prop where
  | year : SymbolText t "yyyy".toList (zeroPadded 4 t.date.year.toNat)
  | yearOfCentury : SymbolText t "yy".toList (zeroPadded 2 (t.date.year % 100).toNat)
  | month : SymbolText t "MM".toList (zeroPadded 2 t.date.month)
  | shortMonth : SymbolText t "MMM".toList (shortNameAt monthNames (t.date.month - 1))
  | day : SymbolText t "dd".toList (zeroPadded 2 t.date.day)
  | ordinal : SymbolText t "DDD".toList (zeroPadded 3 t.date.ordinal.toNat)
  | hour : SymbolText t "HH".toList (zeroPadded 2 t.hour)
  | minute : SymbolText t "mm".toList (zeroPadded 2 t.minute)
  | second : SymbolText t "ss".toList (zeroPadded 2 t.plainSecond)
  | fraction : SymbolText t "SSSSSSSSS".toList (zeroPadded 9 t.nanos)
  | offset : SymbolText t "Z".toList "+0000".toList
  | colonOffset : SymbolText t "XXX".toList "+00:00".toList

/-- A text matches the pieces of a pattern at an instant. -/
inductive Matches (t : Timestamp) : List BackendPattern.Piece → List Char → Prop where
  | nil : Matches t [] []
  | literal (c : Char) {pieces text} (h : Matches t pieces text) :
      Matches t (.literal c :: pieces) (c :: text)
  | symbol {letters here pieces text} (hhere : SymbolText t letters here)
      (h : Matches t pieces text) : Matches t (.symbol letters :: pieces) (here ++ text)

/-- A number that is not negative is filled up with zeros. -/
theorem manyPlaces_zero {n : Int} (h : 0 ≤ n) (width : Nat) :
    manyPlaces width .zero false n = zeroPadded width n.toNat := by
  have hsign : signOf false n = [] := if_neg (Int.not_lt.mpr h)
  have habs : n.natAbs = n.toNat := by omega
  show signOf false n ++ zeroPadded (width - (signOf false n).length) n.natAbs = _
  rw [hsign, habs]
  rfl

variable {t : Timestamp}

/-- A directive writes what its symbol stands for. -/
theorem MappedDirective.exists_symbolText (h : t.IsOrdinary) (directive : MappedDirective) :
    ∃ text, directive.item.print? t = some text ∧ SymbolText t directive.symbol text := by
  have hyear : 0 ≤ t.date.year ∧ t.date.year ≤ 9999 := ⟨by have := h.year; omega, h.year.2⟩
  have hsupported := Timestamp.isSupportedYear_of_hasFourDigitYear hyear
  obtain ⟨hmonth, hday⟩ := Date.month_day_bounds hsupported
  have hordinal := Date.one_le_ordinal hsupported
  have hhour := t.hour_lt
  have hminute := t.minute_lt
  have hplain : t.plainSecond < 60 := Nat.mod_lt _ (by decide)
  -- there is no second 60 outside leap seconds
  have hsecond : t.second = t.plainSecond := by
    unfold Timestamp.second
    rw [Nat.div_eq_of_lt h.nanos_lt, Nat.add_zero]
  have hfraction : t.fraction = t.nanos := Nat.mod_eq_of_lt h.nanos_lt
  cases directive with
  | year => exact ⟨_, congrArg some (yearPlaces_zero hyear), .year⟩
  | yearOfCentury => exact ⟨_, congrArg some (twoPlaces_zero (by omega)), .yearOfCentury⟩
  | month => exact ⟨_, congrArg some (twoPlaces_zero (by omega)), .month⟩
  | shortMonth => exact ⟨_, rfl, .shortMonth⟩
  | day => exact ⟨_, congrArg some (twoPlaces_zero (by omega)), .day⟩
  | ordinal => exact ⟨_, congrArg some (manyPlaces_zero (by omega) 3), .ordinal⟩
  | hour => exact ⟨_, congrArg some (twoPlaces_zero (by omega)), .hour⟩
  | minute => exact ⟨_, congrArg some (twoPlaces_zero (by omega)), .minute⟩
  | second =>
    have hprint : twoPlaces .zero t.second = zeroPadded 2 t.plainSecond := by
      rw [hsecond]
      exact twoPlaces_zero (by omega)
    exact ⟨_, congrArg some hprint, .second⟩
  | nanosecond =>
    have hprint : manyPlaces 9 .zero false t.fraction = zeroPadded 9 t.nanos := by
      rw [hfraction]
      exact manyPlaces_zero (by omega) 9
    exact ⟨_, congrArg some hprint, .fraction⟩
  | offset => exact ⟨_, rfl, .offset⟩
  | colonOffset => exact ⟨_, rfl, .colonOffset⟩

namespace MappedFormat

/-- What is written along pieces matches what they are mapped to. -/
theorem exists_matches_of_pieces (h : t.IsOrdinary) {pieces : List MappedPiece}
    (hliteral : ∀ c, .literal c ∈ pieces → c ≠ '%') :
    ∃ text, DatePattern.written? t (pieces.flatMap MappedPiece.chars) = some text ∧
      Matches t (pieces.map MappedPiece.mapped) text := by
  induction pieces with
  | nil =>
    refine ⟨[], ?_, .nil⟩
    rw [List.flatMap_nil, DatePattern.written?, DatePattern.ofChars?]
    rfl
  | cons piece rest ih =>
    obtain ⟨text, hwritten, hmatches⟩ := ih fun c hc => hliteral c (List.mem_cons_of_mem piece hc)
    rw [List.flatMap_cons, List.map_cons]
    cases piece with
    | literal c =>
      refine ⟨c :: text, ?_, .literal c hmatches⟩
      refine (DatePattern.written?_cons (hliteral c List.mem_cons_self)
        (rest.flatMap MappedPiece.chars)).trans ?_
      rw [hwritten]
      rfl
    | percent =>
      have hdirective := DatePattern.directive?_of_not_mem_marks (c := '%') (by decide)
        (rest.flatMap MappedPiece.chars)
      refine ⟨'%' :: text, ?_, .literal '%' hmatches⟩
      refine (DatePattern.written?_directive hdirective rfl).trans ?_
      rw [hwritten]
      rfl
    | directive kind =>
      obtain ⟨here, hprint, hsymbol⟩ := kind.exists_symbolText h
      refine ⟨here ++ text, ?_, .symbol hsymbol hmatches⟩
      refine (DatePattern.written?_directive (kind.directive?_letters _) hprint).trans ?_
      rw [hwritten]
      rfl

/-- What is written by the format matches the backend's pattern. -/
theorem exists_matches (format : MappedFormat) (h : t.IsOrdinary) :
    ∃ text, (DatePattern.parse format.text).bind (DatePattern.print? t) = some text ∧
      Matches t format.mapped text := by
  obtain ⟨text, hwritten, hmatches⟩ := exists_matches_of_pieces h format.literal_ne
  refine ⟨text, ?_, hmatches⟩
  unfold DatePattern.parse MappedFormat.text
  rw [String.toList_ofList]
  exact hwritten

end MappedFormat
end SearchMapper
