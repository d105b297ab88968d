import SearchMapper.Proofs.Date.MappedFormats

/-!
# Symbols that join

Two symbols of one letter with nothing between them make one longer run of that letter, and are read
as one symbol. Nothing else is lost when a pattern is read back: the pattern of a format is read as
the symbols of its directives and its literal text, where neighbours of one letter are joined.
-/

namespace SearchMapper

namespace BackendPattern

/-! ## Joining neighbours -/

namespace Piece

/-- The symbol of both runs of letters. -/
def join : Piece → Piece → Piece
  | symbol letters, symbol more => symbol (letters ++ more)
  | first, _ => first

/-- A piece in front of others. It is joined with the first of them if they are not apart. -/
def before (piece : Piece) : List Piece → List Piece
  | [] => [piece]
  | next :: rest => if piece.Apart next then piece :: next :: rest else piece.join next :: rest

/-- Pieces that are not apart are symbols that begin with the same letter. -/
theorem exists_of_not_apart {first second : Piece} (h : ¬ first.Apart second) :
    ∃ c letters more, first = symbol (c :: letters) ∧ second = symbol (c :: more) := by
  unfold Apart at h
  rw [not_or, not_not] at h
  obtain ⟨hsome, hsame⟩ := h
  match first, second with
  | literal _, _ => exact absurd rfl hsome
  | symbol [], _ => exact absurd rfl hsome
  | symbol (_ :: _), literal _ => cases hsame
  | symbol (_ :: _), symbol [] => cases hsame
  | symbol (c :: letters), symbol (_ :: more) =>
    cases hsame
    exact ⟨c, letters, more, rfl, rfl⟩

/-- A piece stands apart in front of others, or it is joined with the first of them, a symbol of the
same letter. -/
theorem before_cons_cases (piece next : Piece) (rest : List Piece) :
    (piece.Apart next ∧ piece.before (next :: rest) = piece :: next :: rest) ∨
      ∃ c letters more, piece = symbol (c :: letters) ∧ next = symbol (c :: more) ∧
        piece.before (next :: rest) = symbol (c :: letters ++ c :: more) :: rest := by
  have hbefore : piece.before (next :: rest) =
      if piece.Apart next then piece :: next :: rest else piece.join next :: rest := rfl
  by_cases hapart : piece.Apart next
  · rw [if_pos hapart] at hbefore
    exact .inl ⟨hapart, hbefore⟩
  · rw [if_neg hapart] at hbefore
    obtain ⟨c, letters, more, rfl, rfl⟩ := exists_of_not_apart hapart
    exact .inr ⟨c, letters, more, rfl, rfl, hbefore⟩

end Piece

/-- The pieces, with neighbours joined that are not apart. -/
def joined (pieces : List Piece) : List Piece := pieces.foldr Piece.before []

theorem joined_cons (piece : Piece) (rest : List Piece) :
    joined (piece :: rest) = piece.before (joined rest) := rfl

/-- Joining two neighbours leaves the pattern as it is. -/
theorem assemble_before (pending : List Char) (piece : Piece) (rest : List Piece) :
    assemble pending (piece.before rest) = assemble pending (piece :: rest) := by
  cases rest with
  | nil => rfl
  | cons next rest =>
    obtain ⟨-, hbefore⟩ | ⟨c, letters, more, rfl, rfl, hbefore⟩ :=
      piece.before_cons_cases next rest
    · rw [hbefore]
    · -- nothing is left to write between the two symbols
      have hnothing : literalText ([] : List Char).reverse = [] := rfl
      rw [hbefore]
      simp only [assemble, hnothing, List.nil_append, List.append_assoc]

theorem assemble_joined (pending : List Char) (pieces : List Piece) :
    assemble pending (joined pieces) = assemble pending pieces := by
  induction pieces generalizing pending with
  | nil => rfl
  | cons piece rest ih =>
    rw [joined_cons, assemble_before]
    cases piece with
    | literal c => exact ih (c :: pending)
    | symbol letters =>
      show _ ++ assemble [] (joined rest) = _ ++ assemble [] rest
      rw [ih]

/-- Joined pieces are apart. -/
theorem isChain_joined (pieces : List Piece) : (joined pieces).IsChain Piece.Apart := by
  induction pieces with
  | nil => exact .nil
  | cons piece rest ih =>
    rw [joined_cons]
    cases hrest : joined rest with
    | nil => exact .singleton piece
    | cons next later =>
      rw [hrest] at ih
      obtain ⟨hapart, hbefore⟩ | ⟨c, letters, more, rfl, rfl, hbefore⟩ :=
        piece.before_cons_cases next later
      · rw [hbefore]
        exact .cons_cons hapart ih
      · -- the joined symbol begins with the letter of the second one
        rw [hbefore]
        cases later with
        | nil => exact .singleton _
        | cons third later =>
          obtain ⟨hthird, hlater⟩ := List.isChain_cons_cons.mp ih
          exact .cons_cons hthird hlater

/-- Pieces that can be read by themselves still can when they are joined. -/
theorem isRun_of_mem_joined {pieces : List Piece} (hruns : ∀ piece ∈ pieces, piece.IsRun) :
    ∀ piece ∈ joined pieces, piece.IsRun := by
  induction pieces with
  | nil => exact nofun
  | cons piece rest ih =>
    obtain ⟨hpiece, hrest⟩ := List.forall_mem_cons.mp hruns
    have hjoined := ih hrest
    rw [joined_cons]
    cases hcons : joined rest with
    | nil => exact List.forall_mem_singleton.mpr hpiece
    | cons next later =>
      rw [hcons] at hjoined
      obtain ⟨-, hbefore⟩ | ⟨c, letters, more, rfl, rfl, hbefore⟩ :=
        piece.before_cons_cases next later
      · rw [hbefore]
        exact List.forall_mem_cons.mpr ⟨hpiece, hjoined⟩
      · obtain ⟨hnext, hlater⟩ := List.forall_mem_cons.mp hjoined
        obtain ⟨x, -, halpha, hletters⟩ := hpiece
        obtain ⟨y, -, -, hmore⟩ := hnext
        -- both runs are runs of the letter that they begin with
        have hx : c = x := hletters c List.mem_cons_self
        have hy : c = y := hmore c List.mem_cons_self
        rw [hbefore]
        refine List.forall_mem_cons.mpr ⟨⟨c, List.mem_cons_self, hx ▸ halpha, ?_⟩, hlater⟩
        rw [List.forall_mem_append]
        exact ⟨fun z hz => (hletters z hz).trans hx.symm, fun z hz => (hmore z hz).trans hy.symm⟩

/-- Joining changes nothing exactly if all neighbours are apart. -/
theorem joined_eq_self_iff (pieces : List Piece) :
    joined pieces = pieces ↔ pieces.IsChain Piece.Apart := by
  constructor
  · intro h
    rw [← h]
    exact isChain_joined pieces
  · intro h
    induction pieces with
    | nil => rfl
    | cons piece rest ih =>
      rw [joined_cons, ih h.of_cons]
      cases rest with
      | nil => rfl
      | cons next later => exact if_pos (List.isChain_cons_cons.mp h).1

/-- A pattern is read as the pieces that it is assembled of, joined where they are not apart. -/
theorem read_assemble_eq_joined {pieces : List Piece} (hruns : ∀ piece ∈ pieces, piece.IsRun) :
    read (assemble [] pieces) = some (joined pieces) := by
  rw [← assemble_joined]
  exact read_assemble (isRun_of_mem_joined hruns) (isChain_joined pieces) []

end BackendPattern

/-! ## Main result -/

namespace MappedPiece

theorem isRun_mapped (piece : MappedPiece) : piece.mapped.IsRun := by
  cases piece with
  | literal c => exact trivial
  | percent => exact trivial
  | directive kind => exact kind.isRun_symbol

/-- **What a pattern says of a format.** Whatever directives a format has, and whatever literal text
is between them, its pattern is read as the symbols of the directives, in order, and the literal
text of the format, with a percent sign for each that is written twice; only symbols of one letter
side by side are joined. So the symbols and the text are read exactly as they are if, and only if,
no two directives side by side have symbols of the same letter. -/
theorem read_as_meant_iff {pieces : List MappedPiece}
    (hliteral : ∀ c, .literal c ∈ pieces → c ≠ '%') :
    let format := String.ofList (pieces.flatMap chars)
    let pattern := (BackendPattern.ofFormat format).toList
    BackendPattern.read pattern = some (BackendPattern.joined (pieces.map mapped)) ∧
      (BackendPattern.read pattern = some (pieces.map mapped) ↔
        (pieces.map mapped).IsChain BackendPattern.Piece.Apart) := by
  intro format pattern
  have hruns : ∀ piece ∈ pieces.map mapped, piece.IsRun :=
    List.forall_mem_map.mpr fun piece _ => piece.isRun_mapped
  have hpattern : pattern = BackendPattern.assemble [] (pieces.map mapped) := by
    show (String.ofList _).toList = _
    rw [String.toList_ofList, String.toList_ofList, MappedFormat.pieces_flatMap_chars hliteral]
  have hread : BackendPattern.read pattern =
      some (BackendPattern.joined (pieces.map mapped)) := by
    rw [hpattern]
    exact BackendPattern.read_assemble_eq_joined hruns
  refine ⟨hread, ?_⟩
  rw [hread, Option.some.injEq]
  exact BackendPattern.joined_eq_self_iff _

/-- Letters, quotes, a percent sign and a character beyond ASCII around the directives. -/
theorem read_as_meant_iff_quotes :
    let pieces : List MappedPiece := [.directive .hour, .literal 'h', .literal '\'',
      .directive .minute, .percent, .literal 'Y', .directive .offset, .directive .year,
      .literal '\'', .literal '年']
    BackendPattern.ofFormat (String.ofList (pieces.flatMap chars)) =
        "HH'h'''mm'%Y'Zyyyy'''年'" ∧
      BackendPattern.read "HH'h'''mm'%Y'Zyyyy'''年'".toList = some (pieces.map mapped) := by
  intro pieces
  have hliteral : ∀ c, .literal c ∈ pieces → c ≠ '%' := by
    rintro c hc rfl
    exact absurd hc (by decide)
  have hpattern : BackendPattern.ofFormat (String.ofList (pieces.flatMap chars)) =
      "HH'h'''mm'%Y'Zyyyy'''年'" := by decide +kernel
  refine ⟨hpattern, ?_⟩
  rw [← hpattern]
  exact (read_as_meant_iff hliteral).2.mpr (by decide)

end MappedPiece
end SearchMapper
