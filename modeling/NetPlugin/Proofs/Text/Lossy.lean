import NetPlugin.Proofs.Text.Decoding

/-
  What lossy reading replaces.

  Bytes are cut into characters and into ill-formed parts.
  Where no character stands, the ill-formed part is the
  longest beginning of a character that there is, or a
  single byte if there is none.  There is one such way to
  cut bytes, and lossy reading shows each ill-formed part as
  one U+FFFD.

  Main declarations:
    * `Utf8.BeginsChar` and `Utf8.IsIllFormed`
    * `Utf8.Piece` and `Utf8.Cuts`
    * `Utf8.Cuts.unique`
    * `Utf8.trail_eq_none` and `Utf8.sequence_eq_none`
    * `Utf8.lossy_of_cuts`
    * `Utf8.lossy_eq_empty_iff` and `Utf8.lossy_encode`
    * `Utf8.replacement_mem_lossy`
-/

------------------------------------------------------------
-- Ill-Formed Parts
------------------------------------------------------------

namespace NetPlugin

namespace Utf8

/- The bytes of a character that lacks some at its end. -/
def BeginsChar (part : Bytes) : Prop :=
  ∃ c lacking, lacking ≠ [] ∧ encodeChar c = part ++ lacking

/-
  The longest part that is ill-formed as a whole, given the
  bytes behind it.
-/
structure IsIllFormed (part rest : Bytes) : Prop where
  ne_nil : part ≠ []
  no_char :
    ∀ c later, encodeChar c ++ later ≠ part ++ rest
  begins : part.length = 1 ∨ BeginsChar part
  longest :
    ∀ longer later,
      longer ++ later = part ++ rest →
        part.length < longer.length → ¬ BeginsChar longer

/- There is one such part at most. -/
theorem IsIllFormed.unique
    {part other rest more : Bytes}
    (hPart : IsIllFormed part rest)
    (hOther : IsIllFormed other more)
    (hSame : part ++ rest = other ++ more) :
    part = other ∧ rest = more := by
  have hNotShorter :
      ∀ {short long behind after : Bytes},
        IsIllFormed short behind → IsIllFormed long after →
        short ++ behind = long ++ after →
          ¬ short.length < long.length := by
    intro short long behind after hShort hLong hEqual hLess
    have hSome := List.length_pos_iff.2 hShort.ne_nil
    rcases hLong.begins with hOne | hBegins
    · omega
    · exact hShort.longest long after hEqual.symm hLess hBegins
  have hLength : part.length = other.length := by
    have hNot := hNotShorter hPart hOther hSame
    have hNotOther := hNotShorter hOther hPart hSame.symm
    omega
  exact List.append_inj hSame hLength

------------------------------------------------------------
-- Pieces
------------------------------------------------------------

/- A character, or bytes that are no part of any. -/
inductive Piece where
  | char (c : Char)
  | illFormed (part : Bytes)
  deriving DecidableEq, Repr

namespace Piece

/- The bytes that a piece consists of. -/
def bytes : Piece → Bytes
  | .char c => encodeChar c
  | .illFormed part => part

/- The character that a piece is read as. -/
def shown : Piece → Char
  | .char c => c
  | .illFormed _ => '\uFFFD'

/- The bytes of this character: U+FFFD has three of them. -/
def width : Piece → Nat
  | .char c => (encodeChar c).length
  | .illFormed _ => 3

theorem length_encodeChar_shown (piece : Piece) :
    (encodeChar piece.shown).length = piece.width := by
  cases piece with
  | char c => rfl
  | illFormed _ => rfl

end Piece

/- The text that pieces are read as. -/
def shownText (pieces : List Piece) : String :=
  String.ofList (pieces.map Piece.shown)

/- The bytes of this text. -/
def shownWidth : List Piece → Nat
  | [] => 0
  | piece :: rest => piece.width + shownWidth rest

/- Each ill-formed part is one, given what follows it. -/
def AreLongest : List Piece → Prop
  | [] => True
  | .char _ :: rest => AreLongest rest
  | .illFormed part :: rest =>
      IsIllFormed part (rest.flatMap Piece.bytes) ∧
        AreLongest rest

/- The pieces that bytes consist of. -/
structure Cuts
    (bytes : Bytes)
    (pieces : List Piece) : Prop where
  bytes_eq : pieces.flatMap Piece.bytes = bytes
  longest : AreLongest pieces

theorem Cuts.nil : Cuts [] [] :=
  ⟨rfl, trivial⟩

theorem Cuts.char
    (c : Char)
    {rest : Bytes}
    {pieces : List Piece}
    (hRest : Cuts rest pieces) :
    Cuts (encodeChar c ++ rest) (.char c :: pieces) :=
  ⟨congrArg (encodeChar c ++ ·) hRest.bytes_eq,
    hRest.longest⟩

theorem Cuts.illFormed
    {part rest : Bytes}
    {pieces : List Piece}
    (hPart : IsIllFormed part rest)
    (hRest : Cuts rest pieces) :
    Cuts (part ++ rest) (.illFormed part :: pieces) := by
  refine
    ⟨congrArg (part ++ ·) hRest.bytes_eq, ?_,
      hRest.longest⟩
  rw [hRest.bytes_eq]
  exact hPart

theorem AreLongest.eq_nil
    {pieces : List Piece}
    (hPieces : AreLongest pieces)
    (hNone : pieces.flatMap Piece.bytes = []) :
    pieces = [] := by
  cases pieces with
  | nil => rfl
  | cons piece rest =>
      have hFirst := (List.append_eq_nil_iff.1 hNone).1
      cases piece with
      | char c => exact absurd hFirst (encodeChar_ne_nil c)
      | illFormed part =>
          exact absurd hFirst hPieces.1.ne_nil

/- Bytes are cut in one way, from the left. -/
theorem AreLongest.unique
    {pieces others : List Piece}
    (hPieces : AreLongest pieces)
    (hOthers : AreLongest others)
    (hSame :
      pieces.flatMap Piece.bytes =
        others.flatMap Piece.bytes) :
    pieces = others := by
  induction pieces generalizing others with
  | nil => exact (hOthers.eq_nil hSame.symm).symm
  | cons piece rest ih =>
      cases others with
      | nil => exact hPieces.eq_nil hSame
      | cons other more =>
          have ih := @ih more
          rw [List.flatMap_cons, List.flatMap_cons] at hSame
          cases piece with
          | char c =>
              cases other with
              | char d =>
                  rcases encodeChar_append_inj hSame with
                    ⟨rfl, hRest⟩
                  rw [ih hPieces hOthers hRest]
              | illFormed part =>
                  exact absurd hSame (hOthers.1.no_char c _)
          | illFormed part =>
              cases other with
              | char d =>
                  exact
                    absurd hSame.symm (hPieces.1.no_char d _)
              | illFormed second =>
                  rcases hPieces.1.unique hOthers.1 hSame with
                    ⟨rfl, hRest⟩
                  rw [ih hPieces.2 hOthers.2 hRest]

theorem Cuts.unique
    {bytes : Bytes}
    {pieces others : List Piece}
    (hPieces : Cuts bytes pieces)
    (hOthers : Cuts bytes others) :
    pieces = others :=
  hPieces.longest.unique hOthers.longest
    (hPieces.bytes_eq.trans hOthers.bytes_eq.symm)

------------------------------------------------------------
-- Where Reading Breaks Off
------------------------------------------------------------

/-
  Reading that stops between two parts: the first one can
  still become a character, but not with the byte at which
  the second one begins.
-/
structure BreaksOff
    (read : Bytes → Option Nat × Nat)
    (taken : Nat)
    (tail later : Bytes) : Prop where
  completed :
    ∃ more n,
      more ≠ [] ∧
        read (tail ++ more) =
          (some n, taken + (tail ++ more).length)
  hopeless :
    ∀ b after others,
      later = b :: after →
        (read (tail ++ b :: others)).1 = none

/- Announced bytes can always follow. -/
theorem exists_trail_eq_some
    (payload taken : Nat)
    {low high : Nat}
    (following : Nat)
    (hBounds : low ≤ high)
    (hByte : high < 256) :
    ∃ more n,
      more.length = following ∧
        trail payload taken low high following more =
          (some n, taken + more.length) := by
  induction following generalizing payload taken low high with
  | zero => exact ⟨[], payload, rfl, rfl⟩
  | succ following ih =>
      rcases
        ih (payload * 64 + (low - 0x80)) (taken + 1)
          (show 0x80 ≤ 0xBF by omega) (by omega) with
        ⟨more, n, hLength, hMore⟩
      refine ⟨UInt8.ofNat low :: more, n, ?_, ?_⟩
      · rw [List.length_cons, hLength]
      · rw [trail_cons (by omega) (Nat.le_refl low) hBounds,
          hMore, List.length_cons, Nat.add_assoc,
          Nat.add_comm 1]

theorem trail_eq_none
    {payload taken low high following count : Nat}
    {bytes : Bytes}
    (hBounds : low ≤ high)
    (hByte : high < 256)
    (hTrail :
      trail payload taken low high following bytes =
        (none, count)) :
    ∃ tail later,
      bytes = tail ++ later ∧ taken + tail.length = count ∧
        BreaksOff (trail payload taken low high following)
          taken tail later := by
  induction following
    generalizing payload taken low high bytes with
  | zero => cases hTrail
  | succ following ih =>
      rcases
        exists_trail_eq_some payload taken (following + 1)
          hBounds hByte with
        ⟨full, last, hLength, hFull⟩
      have hSome : full ≠ [] := by
        rintro rfl
        cases hLength
      cases bytes with
      | nil =>
          cases hTrail
          exact
            ⟨[], [], rfl, rfl, ⟨full, last, hSome, hFull⟩,
              fun _ _ _ hNone => nomatch hNone⟩
      | cons b rest =>
          rw [trail] at hTrail
          split at hTrail
          · rename_i hTaken
            rcases ih (by omega) (by omega) hTrail with
              ⟨tail, later, rfl, hCount, hBreaks⟩
            rcases hBreaks.completed with
              ⟨more, n, hMore, hRead⟩
            refine
              ⟨b :: tail, later, rfl, ?_,
                ⟨more, n, hMore, ?_⟩, ?_⟩
            · rw [List.length_cons]
              omega
            · rw [List.cons_append, trail, if_pos hTaken,
                hRead, List.length_cons, Nat.add_assoc,
                Nat.add_comm 1]
            · intro next after others hLater
              rw [List.cons_append, trail, if_pos hTaken]
              exact
                hBreaks.hopeless next after others hLater
          · rename_i hRefused
            cases hTrail
            refine
              ⟨[], b :: rest, rfl, rfl,
                ⟨full, last, hSome, hFull⟩, ?_⟩
            intro next after others hLater
            rw [← (List.cons.inj hLater).1, List.nil_append,
              trail, if_neg hRefused]

/- The bounds of a lead byte leave some bytes. -/
theorem lead?_bounds
    {byte : Nat}
    {lead : Lead}
    (hLead : lead? byte = some lead) :
    lead.low ≤ lead.high ∧ lead.high < 256 := by
  grind [lead?]

/- The bytes of a character are read as this character. -/
theorem sequence_of_encodeChar
    {c : Char}
    {byte : UInt8}
    {tail : Bytes}
    (hBytes : encodeChar c = byte :: tail)
    (rest : Bytes) :
    sequence byte (tail ++ rest) = (some c, tail.length) := by
  rcases sequence_encodePoint (isScalar_toNat c) with
    ⟨first, others, hWritten, hRead⟩
  rw [encodeChar, hWritten] at hBytes
  rcases List.cons.inj hBytes with ⟨rfl, rfl⟩
  rw [hRead rest, Char.ofNat_toNat]

/- What is longer than a part goes on behind it. -/
theorem exists_next_of_longer
    {longer rest part later : Bytes}
    (hSame : longer ++ rest = part ++ later)
    (hLonger : part.length < longer.length) :
    ∃ b others,
      longer = part ++ b :: others ∧
        later = b :: (others ++ rest) := by
  rcases List.append_eq_append_iff.1 hSame with
    ⟨more, hPart, -⟩ | ⟨more, hMore, hLater⟩
  · rw [hPart, List.length_append] at hLonger
    omega
  · cases more with
    | nil =>
        rw [hMore, List.append_nil] at hLonger
        omega
    | cons b others => exact ⟨b, others, hMore, hLater⟩

/- A part is ill-formed when no next byte can help it. -/
theorem isIllFormed_of_hopeless
    {byte : UInt8}
    {tail later : Bytes}
    (hNone : (sequence byte (tail ++ later)).1 = none)
    (hBegins : tail = [] ∨ BeginsChar (byte :: tail))
    (hHopeless :
      ∀ b after others,
        later = b :: after →
          (sequence byte (tail ++ b :: others)).1 = none) :
    IsIllFormed (byte :: tail) later where
  ne_nil := List.cons_ne_nil byte tail
  no_char := by
    intro c behind hSame
    rcases hBytes : encodeChar c with _ | ⟨first, rest⟩
    · exact encodeChar_ne_nil c hBytes
    · rw [hBytes, List.cons_append, List.cons_append] at hSame
      rcases List.cons.inj hSame with ⟨rfl, hRest⟩
      rw [← hRest, sequence_of_encodeChar hBytes] at hNone
      cases hNone
  begins := by
    rcases hBegins with rfl | hBegins
    · exact Or.inl rfl
    · exact Or.inr hBegins
  longest := by
    rintro longer behind hSame hLonger ⟨c, lacking, -, hBytes⟩
    rcases exists_next_of_longer hSame hLonger with
      ⟨b, others, rfl, hLater⟩
    have hWhole :
        encodeChar c =
          byte :: (tail ++ b :: (others ++ lacking)) := by
      simpa using hBytes
    have hRead := sequence_of_encodeChar hWhole []
    have hNext := hHopeless b _ (others ++ lacking) hLater
    rw [List.append_nil] at hRead
    rw [hRead] at hNext
    cases hNext

/- A byte that announces nothing stands alone. -/
theorem sequence_of_no_lead
    {byte : UInt8}
    (hLarge : ¬ byte.toNat < 0x80)
    (hLead : lead? byte.toNat = none)
    (bytes : Bytes) :
    sequence byte bytes = (none, 0) := by
  rw [sequence, if_neg hLarge, hLead]

theorem sequence_of_lead
    {byte : UInt8}
    {lead : Lead}
    (hLarge : ¬ byte.toNat < 0x80)
    (hLead : lead? byte.toNat = some lead)
    (bytes : Bytes) :
    sequence byte bytes =
      ((trail lead.payload 0 lead.low lead.high
            lead.following bytes).1.map Char.ofNat,
        (trail lead.payload 0 lead.low lead.high
            lead.following bytes).2) := by
  rw [sequence, if_neg hLarge, hLead]

/- What can be completed begins a character. -/
theorem beginsChar_of_sequence
    {byte : UInt8}
    {tail more : Bytes}
    {c : Char}
    (hMore : more ≠ [])
    (hRead :
      sequence byte (tail ++ more) =
        (some c, (tail ++ more).length)) :
    BeginsChar (byte :: tail) := by
  rcases sequence_eq_some hRead with
    ⟨whole, behind, hWhole, hLength, hBytes⟩
  have hAll :=
    List.append_inj
      ((List.append_nil (tail ++ more)).trans hWhole)
      hLength.symm
  exact
    ⟨c, more, hMore,
      by rw [hBytes, ← hAll.1, List.cons_append]⟩

/- Where no character is read, an ill-formed part stands. -/
theorem sequence_eq_none
    {byte : UInt8}
    {rest : Bytes}
    {count : Nat}
    (hSequence : sequence byte rest = (none, count)) :
    ∃ tail later,
      rest = tail ++ later ∧ tail.length = count ∧
        IsIllFormed (byte :: tail) later := by
  have hNone : (sequence byte rest).1 = none := by
    rw [hSequence]
  by_cases hSmall : byte.toNat < 0x80
  · rw [sequence, if_pos hSmall] at hSequence
    cases hSequence
  cases hLead : lead? byte.toNat with
  | none =>
      have hStray := sequence_of_no_lead hSmall hLead
      rw [hStray rest] at hSequence
      cases hSequence
      exact
        ⟨[], rest, rfl, rfl,
          isIllFormed_of_hopeless hNone (Or.inl rfl)
            fun b _ others _ =>
              congrArg Prod.fst (hStray (b :: others))⟩
  | some lead =>
      have hRead := sequence_of_lead hSmall hLead
      have hTrail :
          trail lead.payload 0 lead.low lead.high
              lead.following rest =
            (none, count) := by
        rw [hRead rest] at hSequence
        rcases Prod.mk.inj hSequence with ⟨hPoint, hCount⟩
        exact Prod.ext (Option.map_eq_none_iff.1 hPoint) hCount
      rcases lead?_bounds hLead with ⟨hBounds, hByte⟩
      rcases trail_eq_none hBounds hByte hTrail with
        ⟨tail, later, rfl, hCount, hBreaks⟩
      refine
        ⟨tail, later, rfl, by omega,
          isIllFormed_of_hopeless hNone (Or.inr ?_) ?_⟩
      · rcases hBreaks.completed with
          ⟨more, n, hMore, hFull⟩
        apply beginsChar_of_sequence hMore
        rw [hRead, hFull, Nat.zero_add]
        rfl
      · intro b after others hLater
        rw [hRead, hBreaks.hopeless b after others hLater]
        rfl

------------------------------------------------------------
-- Lossy Reading
------------------------------------------------------------

/- Bytes that belong to the piece before are skipped. -/
theorem lossyFrom_length_append (skipped rest : Bytes) :
    lossyFrom skipped.length (skipped ++ rest) =
      lossyFrom 0 rest := by
  induction skipped with
  | nil => rfl
  | cons b more ih =>
      rw [List.length_cons, List.cons_append, lossyFrom, ih]

/- The induction is on the length, one piece a step. -/
theorem exists_cuts_lossyFrom (bytes : Bytes) :
    ∃ pieces,
      Cuts bytes pieces ∧
        lossyFrom 0 bytes = pieces.map Piece.shown := by
  induction hLength : bytes.length using Nat.strongRecOn
    generalizing bytes with
  | ind length ih =>
      cases bytes with
      | nil => exact ⟨[], Cuts.nil, rfl⟩
      | cons byte rest =>
          have hStep :
              ∀ {tail later : Bytes},
                rest = tail ++ later →
                  ∃ pieces,
                    Cuts later pieces ∧
                      lossyFrom tail.length rest =
                        pieces.map Piece.shown := by
            rintro tail later rfl
            rw [lossyFrom_length_append]
            refine ih later.length ?_ later rfl
            rw [← hLength, List.length_cons,
              List.length_append]
            omega
          rcases hSequence : sequence byte rest with
            ⟨c?, count⟩
          rw [lossyFrom, hSequence]
          cases c? with
          | some c =>
              rcases sequence_eq_some hSequence with
                ⟨tail, later, hRest, rfl, hChar⟩
              rcases hStep hRest with
                ⟨pieces, hCuts, hShown⟩
              refine ⟨.char c :: pieces, ?_, ?_⟩
              · have hAll := hCuts.char c
                rwa [hChar, List.cons_append, ← hRest]
                  at hAll
              · exact congrArg (c :: ·) hShown
          | none =>
              rcases sequence_eq_none hSequence with
                ⟨tail, later, hRest, rfl, hPart⟩
              rcases hStep hRest with
                ⟨pieces, hCuts, hShown⟩
              refine
                ⟨.illFormed (byte :: tail) :: pieces, ?_, ?_⟩
              · have hAll := hCuts.illFormed hPart
                rwa [List.cons_append, ← hRest] at hAll
              · exact congrArg ('\uFFFD' :: ·) hShown

/- The text that is read from bytes is that of its pieces. -/
theorem lossy_of_cuts
    {bytes : Bytes}
    {pieces : List Piece}
    (hCuts : Cuts bytes pieces) :
    lossy bytes = shownText pieces := by
  rcases exists_cuts_lossyFrom bytes with
    ⟨others, hOthers, hShown⟩
  rw [lossy, hShown, hOthers.unique hCuts, shownText]

theorem exists_cuts (bytes : Bytes) :
    ∃ pieces, Cuts bytes pieces := by
  rcases exists_cuts_lossyFrom bytes with
    ⟨pieces, hCuts, -⟩
  exact ⟨pieces, hCuts⟩

/- No bytes are lost altogether. -/
theorem lossy_eq_empty_iff (bytes : Bytes) :
    lossy bytes = "" ↔ bytes = [] := by
  rcases exists_cuts bytes with ⟨pieces, hCuts⟩
  rw [lossy_of_cuts hCuts, shownText]
  constructor
  · intro hEmpty
    rw [String.ofList_eq_empty_iff, List.map_eq_nil_iff]
      at hEmpty
    rw [← hCuts.bytes_eq, hEmpty]
    rfl
  · rintro rfl
    rw [hCuts.unique Cuts.nil]
    rfl

/- The bytes of characters are cut into these characters. -/
theorem cuts_encodeChars (text : List Char) :
    Cuts (encodeChars text) (text.map Piece.char) := by
  induction text with
  | nil => exact Cuts.nil
  | cons c rest ih => exact ih.char c

/- Well-formed bytes are read as they were written. -/
@[simp]
theorem lossy_encode (text : String) :
    lossy (encode text) = text := by
  have hShown : Piece.shown ∘ Piece.char = id := rfl
  rw [encode, lossy_of_cuts (cuts_encodeChars text.toList),
    shownText, List.map_map, hShown, List.map_id,
    String.ofList_toList]

/- Pieces are characters if no replacement is shown. -/
theorem eq_map_char_of_replacement_not_mem
    {pieces : List Piece}
    (hNone : '\uFFFD' ∉ pieces.map Piece.shown) :
    pieces = (pieces.map Piece.shown).map Piece.char := by
  induction pieces with
  | nil => rfl
  | cons piece rest ih =>
      rw [List.map_cons, List.mem_cons, not_or] at hNone
      cases piece with
      | char c => exact congrArg (_ :: ·) (ih hNone.2)
      | illFormed part => exact absurd rfl hNone.1

/- Otherwise a replacement character stands in the text. -/
theorem replacement_mem_lossy
    {bytes : Bytes}
    (hInvalid : ∀ text, bytes ≠ encode text) :
    '\uFFFD' ∈ (lossy bytes).toList := by
  rcases exists_cuts bytes with ⟨pieces, hCuts⟩
  rw [lossy_of_cuts hCuts, shownText, String.toList_ofList]
  apply Decidable.byContradiction
  intro hNone
  apply hInvalid (shownText pieces)
  have hChars := eq_map_char_of_replacement_not_mem hNone
  have hBytes :=
    (cuts_encodeChars (pieces.map Piece.shown)).bytes_eq
  rw [← hChars, hCuts.bytes_eq] at hBytes
  rw [hBytes, encode, shownText, String.toList_ofList]

/- Replacement characters count like all the others. -/
theorem utf8ByteSize_shownText (pieces : List Piece) :
    (shownText pieces).utf8ByteSize = shownWidth pieces := by
  induction pieces with
  | nil => rfl
  | cons piece rest ih =>
      rw [shownText, List.map_cons, String.ofList_cons,
        String.utf8ByteSize_append,
        String.utf8ByteSize_singleton, ← length_encodeChar,
        Piece.length_encodeChar_shown, ← shownText, ih,
        shownWidth]

/- Two bytes that begin a character are shown as three. -/
example :
    shownWidth [.char 'a', .illFormed [0xE2, 0x82]] = 4 := by
  decide

end Utf8

end NetPlugin
