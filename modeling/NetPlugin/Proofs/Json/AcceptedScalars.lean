import NetPlugin.Proofs.Json.SkippedScalars
import NetPlugin.Proofs.Text.Decoding

/-
  What is read as a string or a number is a text of it.

  The contents of a literal are followed one character at a
  time: a plain byte begins the bytes of a character, whose
  other bytes are plain, and an escape stands for a whole
  character.  The parts of a numeral are found again in any
  place that does not go on with them.

  Main declarations:
    * `Json.escapeSequence_eq_ok`
    * `Json.contents_next`
    * `Json.literalText_of_readString`
    * `Json.readUnsigned_eq_ok`
    * `Json.numeral_of_readNumber`
-/

------------------------------------------------------------
-- Escapes
------------------------------------------------------------

namespace NetPlugin

namespace Json

theorem hexDigit?_lt
    {b : UInt8}
    {digit : Nat}
    (hDigit : hexDigit? b = some digit) :
    digit < 16 := by
  unfold hexDigit? at hDigit
  simp only [UInt8.le_iff_toNat_le] at hDigit
  have hNine : (0x39 : UInt8).toNat = 0x39 := rfl
  have hSmall : (0x66 : UInt8).toNat = 0x66 := rfl
  have hLarge : (0x46 : UInt8).toNat = 0x46 := rfl
  split at hDigit
  · have hValue := Option.some.inj hDigit
    omega
  split at hDigit
  · have hValue := Option.some.inj hDigit
    omega
  split at hDigit
  · have hValue := Option.some.inj hDigit
    omega
  · cases hDigit

/- Four digits are read, of a number of 16 bits. -/
theorem hexQuad_eq_ok
    {bytes : Bytes}
    {n : Nat}
    (hQuad : hexQuad bytes = .ok n) :
    ∃ digits rest,
      bytes = digits ++ rest ∧ digits.length = 4 ∧
        hexQuad digits = .ok n ∧ n < 0x10000 := by
  rcases exists_four_of_hexQuad hQuad with
    ⟨a, b, c, d, rest, rfl⟩
  simp only [hexQuad] at hQuad
  split at hQuad
  · rename_i w x y z hFirst hSecond hThird hFourth
    have hValue := Except.ok.inj hQuad
    have hBoundFirst := hexDigit?_lt hFirst
    have hBoundSecond := hexDigit?_lt hSecond
    have hBoundThird := hexDigit?_lt hThird
    have hBoundFourth := hexDigit?_lt hFourth
    refine ⟨[a, b, c, d], rest, rfl, rfl, ?_, by omega⟩
    simp only [hexQuad, hFirst, hSecond, hThird, hFourth,
      hValue]
  · cases hQuad

/- The second half of a pair is an escape of its own. -/
theorem trailingEscape_eq_ok
    {leading point : Nat}
    {bytes : Bytes}
    (hEscape : trailingEscape leading bytes = .ok point) :
    ∃ lower rest trailing,
      bytes =
          Mark.backslash :: unicodeLetter ::
            (lower ++ rest) ∧
        lower.length = 4 ∧
        hexQuad lower = .ok trailing ∧
        isTrailingSurrogate trailing = true ∧
        pairedPoint leading trailing = point := by
  unfold trailingEscape at hEscape
  split at hEscape
  · cases hEscape
  rename_i b more
  split at hEscape
  · cases hEscape
  rename_i hBackslash
  split at hEscape
  · cases hEscape
  rename_i c digits
  split at hEscape
  · cases hEscape
  rename_i hLetter
  split at hEscape
  · cases hEscape
  rename_i trailing hQuad
  split at hEscape
  · rename_i hTrailing
    rw [ne_eq, Decidable.not_not] at hBackslash hLetter
    rcases hexQuad_eq_ok hQuad with
      ⟨lower, rest, rfl, hLength, hDigits, _⟩
    exact
      ⟨lower, rest, trailing, by rw [hBackslash, hLetter],
        hLength, hDigits, hTrailing,
        Except.ok.inj hEscape⟩
  · cases hEscape

/- Both halves of a pair make a scalar value. -/
theorem isScalar_pairedPoint
    {leading trailing : Nat}
    (hFirst : isLeadingSurrogate leading = true)
    (hSecond : isTrailingSurrogate trailing = true) :
    Utf8.IsScalar (pairedPoint leading trailing) := by
  simp only [isLeadingSurrogate, Bool.and_eq_true,
    decide_eq_true_eq] at hFirst
  simp only [isTrailingSurrogate, Bool.and_eq_true,
    decide_eq_true_eq] at hSecond
  unfold Utf8.IsScalar pairedPoint
  omega

/-
  An escape that is read stands for one character, and is
  a text of it behind its backslash.
-/
structure Escapes
    (c : Char)
    (escape : Bytes)
    (bytes : Bytes)
    (width : Nat) : Prop where
  charText : CharText c (Mark.backslash :: escape)
  bytes_eq : bytes = Utf8.encodeChar c
  width_eq : width = escape.length

/- A numbered escape is one or two groups of four digits. -/
theorem unicodeEscape_eq_ok
    {bytes : Bytes}
    {point width : Nat}
    (hEscape : unicodeEscape bytes = .ok (point, width)) :
    ∃ c digits rest,
      bytes = digits ++ rest ∧
        Escapes c (unicodeLetter :: digits)
          (Utf8.encodePoint point) (width + 1) := by
  unfold unicodeEscape at hEscape
  split at hEscape
  · cases hEscape
  rename_i n hQuad
  rcases hexQuad_eq_ok hQuad with
    ⟨digits, rest, rfl, hLength, hDigits, hBound⟩
  split at hEscape
  · cases hEscape
  rename_i hNotTrailing
  split at hEscape
  · rename_i hLeading
    rw [← hLength, List.drop_left] at hEscape
    split at hEscape
    · cases hEscape
    rename_i hTrailing
    rcases trailingEscape_eq_ok hTrailing with
      ⟨lower, more, trailing, rfl, hLowerLength, hLower,
        hSecond, hPoint⟩
    cases hEscape
    have hScalar := isScalar_pairedPoint hLeading hSecond
    rw [hPoint] at hScalar
    have hChar := Utf8.toNat_ofNat_of_isScalar hScalar
    refine
      ⟨Char.ofNat point,
        digits ++ Mark.backslash :: unicodeLetter :: lower,
        more, ?_, ?_, ?_, ?_⟩
    · simp only [List.append_assoc, List.cons_append]
    · apply CharText.paired hLength hLowerLength hDigits
        hLower hLeading hSecond
      rw [hPoint, hChar]
    · rw [Utf8.encodeChar, hChar]
    · simp [hLength, hLowerLength]
  · rename_i hNotLeading
    cases hEscape
    have hScalar : Utf8.IsScalar point := by
      simp only [isTrailingSurrogate, Bool.and_eq_true,
        decide_eq_true_eq] at hNotTrailing
      simp only [isLeadingSurrogate, Bool.and_eq_true,
        decide_eq_true_eq] at hNotLeading
      unfold Utf8.IsScalar
      omega
    have hChar := Utf8.toNat_ofNat_of_isScalar hScalar
    refine
      ⟨Char.ofNat point, digits, rest, rfl, ?_, ?_, ?_⟩
    · apply CharText.numbered hLength
      rw [hDigits, hChar]
    · rw [Utf8.encodeChar, hChar]
    · rw [List.length_cons, hLength]

theorem escapeSequence_eq_ok
    {tail bytes : Bytes}
    {width : Nat}
    (hEscape : escapeSequence tail = .ok (bytes, width)) :
    ∃ c escape rest,
      tail = escape ++ rest ∧
        Escapes c escape bytes width := by
  cases tail with
  | nil => cases hEscape
  | cons b rest =>
      cases hShort : shortEscape? b with
      | some byte =>
          rw [escapeSequence_letter hShort] at hEscape
          cases hEscape
          exact
            ⟨_, [b], rest, rfl, .short b hShort, rfl, rfl⟩
      | none =>
          rw [escapeSequence, hShort] at hEscape
          simp only at hEscape
          split at hEscape
          · rename_i hLetter
            split at hEscape
            · cases hEscape
            rename_i point count hUnicode
            cases hEscape
            rcases unicodeEscape_eq_ok hUnicode with
              ⟨c, digits, more, rfl, hEscapes⟩
            rw [hLetter]
            exact
              ⟨c, unicodeLetter :: digits, more, rfl,
                hEscapes⟩
          · cases hEscape

------------------------------------------------------------
-- Literals
------------------------------------------------------------

/-
  Bytes that go on with a character stand for themselves:
  an escape would begin another one.
-/
theorem contents_continues
    {before : Bytes}
    (hBefore : ∀ b ∈ before, Utf8.Continues b)
    {bytes later rest : Bytes}
    (hRead :
      contents 0 bytes = .ok (before ++ later, rest)) :
    ∃ more,
      bytes = before ++ more ∧
        contents 0 more = .ok (later, rest) := by
  induction before generalizing bytes with
  | nil => exact ⟨bytes, rfl, hRead⟩
  | cons b before ih =>
      rw [List.forall_mem_cons] at hBefore
      rcases hBefore with ⟨hFirst, hBefore⟩
      cases bytes with
      | nil => cases hRead
      | cons byte tail =>
          have hCourse := contents_course hRead
          generalize hRaw : b :: before ++ later = raw
            at hCourse
          cases hCourse with
          | closed hQuote hRest => cases hRaw
          | escaped hQuote hBackslash hEscape hMore =>
              rcases escapeSequence_eq_ok hEscape with
                ⟨c, escape, behind, rfl, hEscapes⟩
              rcases Utf8.encodeChar_shape c with
                ⟨first, shares, hBytes, hStarts, _⟩
              rw [hEscapes.bytes_eq, hBytes] at hRaw
              rw [(List.cons.inj hRaw).1] at hFirst
              exact absurd hFirst hStarts
          | plain hPlain hMore =>
              cases hRaw
              rcases ih hBefore hMore with
                ⟨more, rfl, hLater⟩
              exact ⟨more, rfl, hLater⟩

/-
  The contents that begin with the bytes of a character
  were read from a text of this character.
-/
theorem contents_next
    {c : Char}
    {bytes later rest : Bytes}
    (hRead :
      contents 0 bytes =
        .ok (Utf8.encodeChar c ++ later, rest)) :
    ∃ text more,
      bytes = text ++ more ∧ CharText c text ∧
        contents 0 more = .ok (later, rest) := by
  rcases Utf8.encodeChar_shape c with
    ⟨first, shares, hBytes, _, hShares, hPoint⟩
  cases bytes with
  | nil => cases hRead
  | cons byte tail =>
      have hCourse := contents_course hRead
      generalize hRaw : Utf8.encodeChar c ++ later = raw
        at hCourse
      cases hCourse with
      | closed hQuote hRest =>
          rw [hBytes] at hRaw
          cases hRaw
      | escaped hQuote hBackslash hEscape hMore =>
          rcases escapeSequence_eq_ok hEscape with
            ⟨d, escape, more, rfl, hEscapes⟩
          rw [hEscapes.bytes_eq] at hRaw
          rcases Utf8.encodeChar_append_inj hRaw with
            ⟨rfl, rfl⟩
          rw [hEscapes.width_eq, contents_length_append]
            at hMore
          refine
            ⟨Mark.backslash :: escape, more, ?_,
              hEscapes.charText, hMore⟩
          rw [hBackslash, List.cons_append]
      | plain hPlain hMore =>
          rw [hBytes] at hRaw
          cases hRaw
          rcases contents_continues hShares hMore with
            ⟨more, rfl, hLater⟩
          refine
            ⟨Utf8.encodeChar c, more, ?_, ?_, hLater⟩
          · rw [hBytes, List.cons_append]
          rcases (isPlainByte_iff _).1 hPlain with
            ⟨hQuote, hBackslash, hControl⟩
          apply CharText.plain
          · omega
          · rintro rfl
            rcases hPoint with hSame | hHigh
            · exact hQuote hSame
            · exact absurd hHigh (by decide)
          · rintro rfl
            rcases hPoint with hSame | hHigh
            · exact hBackslash hSame
            · exact absurd hHigh (by decide)

/- The induction is on the characters of the contents. -/
theorem literalText_of_contents
    {cs : List Char}
    {bytes rest : Bytes}
    (hRead :
      contents 0 bytes = .ok (Utf8.encodeChars cs, rest)) :
    ∃ body,
      bytes = body ++ Mark.quote :: rest ∧
        LiteralText cs body := by
  induction cs generalizing bytes with
  | nil =>
      cases bytes with
      | nil => cases hRead
      | cons byte tail =>
          have hCourse := contents_course hRead
          generalize hRaw : Utf8.encodeChars [] = raw
            at hCourse
          cases hCourse with
          | closed hQuote hRest =>
              rw [hQuote, hRest]
              exact ⟨[], rfl, .nil⟩
          | escaped hQuote hBackslash hEscape hMore =>
              rcases escapeSequence_eq_ok hEscape with
                ⟨c, escape, more, _, hEscapes⟩
              rw [hEscapes.bytes_eq] at hRaw
              have hNone :=
                List.append_eq_nil_iff.1 hRaw.symm
              exact
                absurd hNone.1 (Utf8.encodeChar_ne_nil c)
          | plain hPlain hMore => cases hRaw
  | cons c cs ih =>
      rw [Utf8.encodeChars_cons] at hRead
      rcases contents_next hRead with
        ⟨text, more, rfl, hChar, hLater⟩
      rcases ih hLater with ⟨body, rfl, hBody⟩
      refine ⟨text ++ body, ?_, .cons hChar hBody⟩
      rw [List.append_assoc]

/- A string that is read was written as its literal. -/
theorem literalText_of_readString
    {bytes rest : Bytes}
    {value : String}
    (hRead : readString bytes = .ok (value, rest)) :
    ∃ body,
      bytes = body ++ Mark.quote :: rest ∧
        LiteralText value.toList body := by
  unfold readString at hRead
  split at hRead
  · cases hRead
  rename_i raw after hContents
  split at hRead
  · rename_i text hDecode
    cases hRead
    rw [(Utf8.decode?_eq_some_iff _ _).1 hDecode, Utf8.encode]
      at hContents
    exact literalText_of_contents hContents
  · cases hRead

------------------------------------------------------------
-- The Parts of a Numeral
------------------------------------------------------------

/- The bytes that change what stands before an exponent. -/
def continuesFraction (b : UInt8) : Bool :=
  isDigit b || b == Mark.point

theorem headAvoids_cons
    {avoided : UInt8 → Bool}
    {b : UInt8}
    (hHead : avoided b = false)
    (rest : Bytes) :
    HeadAvoids avoided (b :: rest) := by
  intro first hFirst
  cases hFirst
  exact hHead

theorem HeadAvoids.endsDigits
    {rest : Bytes}
    (hRest : HeadAvoids continuesFraction rest) :
    HeadAvoids isDigit rest := by
  intro b hHead
  have hAvoided := hRest b hHead
  rw [continuesFraction, Bool.or_eq_false_iff] at hAvoided
  exact hAvoided.1

theorem EndsNumber.endsFraction
    {rest : Bytes}
    (hEnds : EndsNumber rest) :
    HeadAvoids continuesFraction rest := by
  intro b hHead
  have hAvoided := hEnds b hHead
  rw [continuesNumber, Bool.or_eq_false_iff] at hAvoided
  exact hAvoided.1

theorem isDigit_of_mem_leadingDigits
    {bytes : Bytes}
    {b : UInt8}
    (hByte : b ∈ leadingDigits bytes) :
    isDigit b = true :=
  List.all_eq_true.1 List.all_takeWhile b hByte

theorem leadingDigits_append_afterDigits (bytes : Bytes) :
    leadingDigits bytes ++ afterDigits bytes = bytes :=
  List.takeWhile_append_dropWhile

/- Whole digits are found again before no other digit. -/
theorem wholeDigits_eq_ok
    {bytes digits rest : Bytes}
    (hRead : wholeDigits bytes = .ok (digits, rest)) :
    bytes = digits ++ rest ∧
      (∃ b tail, digits = b :: tail ∧ isDigit b = true) ∧
      ∀ more,
        HeadAvoids isDigit more →
        wholeDigits (digits ++ more) = .ok (digits, more) := by
  unfold wholeDigits at hRead
  split at hRead
  · cases hRead
  rename_i b tail
  split at hRead
  · rename_i hZero
    split at hRead
    · cases hRead
      refine ⟨rfl, ⟨b, [], rfl, by rw [hZero]; rfl⟩, ?_⟩
      intro more hMore
      have hNone : leadingDigits more = [] :=
        @HeadAvoids.leadingDigits_append [] more hMore
          (by simp)
      rw [List.singleton_append, wholeDigits, if_pos hZero,
        hNone]
    · cases hRead
  rename_i hZero
  split at hRead
  · rename_i hDigit
    cases hRead
    refine ⟨?_, ⟨b, _, rfl, hDigit⟩, ?_⟩
    · rw [List.cons_append, leadingDigits_append_afterDigits]
    intro more hMore
    have hDigits :
        ∀ digit ∈ leadingDigits tail, isDigit digit = true :=
      fun _ => isDigit_of_mem_leadingDigits
    rw [List.cons_append, wholeDigits, if_neg hZero,
      if_pos hDigit, hMore.leadingDigits_append hDigits,
      hMore.afterDigits_append hDigits]
  · cases hRead

/- The text of a fraction, found again where it ends. -/
theorem fractionDigits_eq_ok
    {bytes rest : Bytes}
    {digits : Option Bytes}
    (hRead : fractionDigits bytes = .ok (digits, rest)) :
    ∃ text,
      bytes = text ++ rest ∧
        ∀ more,
          HeadAvoids continuesFraction more →
          HeadAvoids isDigit (text ++ more) ∧
            fractionDigits (text ++ more) =
              .ok (digits, more) := by
  have hNone :
      ∀ more,
        HeadAvoids continuesFraction more →
        HeadAvoids isDigit ([] ++ more) ∧
          fractionDigits ([] ++ more) = .ok (none, more) := by
    intro more hMore
    refine ⟨hMore.endsDigits, ?_⟩
    cases more with
    | nil => rfl
    | cons b tail =>
        have hHead := hMore b rfl
        rw [continuesFraction, Bool.or_eq_false_iff,
          beq_eq_false_iff_ne] at hHead
        simp only [List.nil_append, fractionDigits, hHead.2,
          if_false]
  unfold fractionDigits at hRead
  split at hRead
  · cases hRead
    exact ⟨[], rfl, hNone⟩
  rename_i b tail
  split at hRead
  · rename_i hPoint
    split at hRead
    · split at hRead <;> cases hRead
    rename_i digit others hLeading
    cases hRead
    refine ⟨Mark.point :: digit :: others, ?_, ?_⟩
    · rw [hPoint, List.cons_append, ← hLeading,
        leadingDigits_append_afterDigits]
    intro more hMore
    refine ⟨headAvoids_cons rfl _, ?_⟩
    have hDigits :
        ∀ b ∈ digit :: others, isDigit b = true := by
      rw [← hLeading]
      exact fun _ => isDigit_of_mem_leadingDigits
    rw [List.cons_append]
    unfold fractionDigits
    simp only [if_true,
      hMore.endsDigits.leadingDigits_append hDigits,
      hMore.endsDigits.afterDigits_append hDigits]
  · cases hRead
    exact ⟨[], rfl, hNone⟩

theorem exponentSign_eq
    {bytes after : Bytes}
    {negative : Bool}
    {digit : UInt8}
    (hSign : exponentSign bytes = (negative, digit :: after)) :
    ∃ sign,
      bytes = sign ++ digit :: after ∧
        ∀ more,
          exponentSign (sign ++ digit :: more) =
            (negative, digit :: more) := by
  unfold exponentSign at hSign
  split at hSign
  · cases hSign
  split at hSign
  · rename_i hMinus
    cases hSign
    rw [hMinus]
    exact ⟨[Mark.minus], rfl, fun _ => rfl⟩
  rename_i hMinus
  split at hSign
  · rename_i hPlus
    cases hSign
    rw [hPlus]
    exact ⟨[Mark.plus], rfl, fun _ => rfl⟩
  · rename_i hPlus
    cases hSign
    refine ⟨[], rfl, fun more => ?_⟩
    rw [List.nil_append, exponentSign, if_neg hMinus,
      if_neg hPlus]

theorem not_continuesFraction_of_isExponentMark
    {b : UInt8}
    (hMark : isExponentMark b = true) :
    continuesFraction b = false := by
  rw [isExponentMark, Bool.or_eq_true, beq_iff_eq,
    beq_iff_eq] at hMark
  rcases hMark with rfl | rfl <;> rfl

/- The text of an exponent, found again where it ends. -/
theorem exponentDigits_eq_ok
    {bytes rest : Bytes}
    {exponent : Option Exponent}
    (hRead : exponentDigits bytes = .ok (exponent, rest)) :
    ∃ text,
      bytes = text ++ rest ∧
        ∀ more,
          EndsNumber more →
          HeadAvoids continuesFraction (text ++ more) ∧
            exponentDigits (text ++ more) =
              .ok (exponent, more) := by
  have hNone :
      ∀ more,
        EndsNumber more →
        HeadAvoids continuesFraction ([] ++ more) ∧
          exponentDigits ([] ++ more) = .ok (none, more) :=
    fun _ hMore =>
      ⟨hMore.endsFraction, exponentDigits_of_endsNumber hMore⟩
  unfold exponentDigits at hRead
  split at hRead
  · cases hRead
    exact ⟨[], rfl, hNone⟩
  rename_i b tail
  split at hRead
  · rename_i hMark
    rcases hSign : exponentSign tail with ⟨negative, behind⟩
    rw [hSign] at hRead
    cases behind with
    | nil => cases hRead
    | cons digit after =>
        simp only at hRead
        split at hRead
        · rename_i hDigit
          cases hRead
          rcases exponentSign_eq hSign with
            ⟨sign, rfl, hAgain⟩
          refine
            ⟨b :: (sign ++ digit :: leadingDigits after),
              ?_, ?_⟩
          · simp only [List.cons_append, List.append_assoc,
              leadingDigits_append_afterDigits]
          intro more hMore
          refine
            ⟨headAvoids_cons
              (not_continuesFraction_of_isExponentMark hMark)
              _, ?_⟩
          have hDigits :
              ∀ b ∈ leadingDigits after, isDigit b = true :=
            fun _ => isDigit_of_mem_leadingDigits
          simp only [List.cons_append, List.append_assoc,
            exponentDigits, hMark, if_true, hAgain, hDigit,
            hMore.endsDigits.leadingDigits_append hDigits,
            hMore.endsDigits.afterDigits_append hDigits]
        · cases hRead
  · cases hRead
    exact ⟨[], rfl, hNone⟩

------------------------------------------------------------
-- Numbers
------------------------------------------------------------

theorem floatNumber_eq_ok
    {negative : Bool}
    {significand : Nat}
    {power : Int}
    {rest : Bytes}
    {number : Number}
    (hNumber :
      floatNumber negative significand power rest =
        .ok number)
    (more : Bytes) :
    floatNumber negative significand power more =
      .ok number := by
  unfold floatNumber at hNumber ⊢
  split at hNumber
  · exact hNumber
  · cases hNumber

/- A number does not depend on what follows it. -/
theorem numberOf_eq_ok
    {negative : Bool}
    {whole : Bytes}
    {fraction : Option Bytes}
    {exponent : Option Exponent}
    {rest : Bytes}
    {number : Number}
    (hNumber :
      numberOf negative whole fraction exponent rest =
        .ok number)
    (more : Bytes) :
    numberOf negative whole fraction exponent more =
      .ok number := by
  unfold numberOf at hNumber ⊢
  cases exponent with
  | some e =>
      simp only at hNumber ⊢
      split at hNumber
      · exact floatNumber_eq_ok hNumber more
      · split at hNumber
        · rename_i hZero
          rw [if_pos hZero]
          exact hNumber
        · cases hNumber
  | none =>
      simp only at hNumber ⊢
      split at hNumber
      · rename_i hInteger
        rw [if_pos hInteger]
        exact hNumber
      · rename_i hInteger
        rw [if_neg hInteger]
        exact floatNumber_eq_ok hNumber more

/-
  The text of a number without its sign.  Its parts are
  found again from the last one to the first.
-/
theorem readUnsigned_eq_ok
    {negative : Bool}
    {bytes rest : Bytes}
    {number : Number}
    (hRead :
      readUnsigned negative bytes = .ok (number, rest)) :
    ∃ b tail,
      bytes = b :: tail ++ rest ∧ isDigit b = true ∧
        ∀ more,
          EndsNumber more →
          readUnsigned negative (b :: tail ++ more) =
            .ok (number, more) := by
  rcases Reader.exists_of_bind hRead with
    ⟨whole, first, hWhole, hRead⟩
  rcases Reader.exists_of_bind hRead with
    ⟨fraction, second, hFraction, hRead⟩
  rcases Reader.exists_of_bind hRead with
    ⟨exponent, last, hExponent, hRead⟩
  have hNumber :
      numberOf negative whole fraction exponent last =
          .ok number ∧ last = rest := by
    cases hFound :
        numberOf negative whole fraction exponent last with
    | error failure =>
        rw [hFound] at hRead
        cases hRead
    | ok found =>
        rw [hFound] at hRead
        cases hRead
        exact ⟨rfl, rfl⟩
  rcases hNumber with ⟨hNumber, rfl⟩
  rcases wholeDigits_eq_ok hWhole with
    ⟨rfl, ⟨b, tail, rfl, hDigit⟩, hWholeAgain⟩
  rcases fractionDigits_eq_ok hFraction with
    ⟨fractionText, rfl, hFractionAgain⟩
  rcases exponentDigits_eq_ok hExponent with
    ⟨exponentText, rfl, hExponentAgain⟩
  refine
    ⟨b, tail ++ (fractionText ++ exponentText), ?_, hDigit,
      ?_⟩
  · simp only [List.cons_append, List.append_assoc]
  intro more hMore
  rcases hExponentAgain more hMore with ⟨hFollows, hThird⟩
  rcases hFractionAgain _ hFollows with ⟨hFollows, hSecond⟩
  have hFirst := hWholeAgain _ hFollows
  simp only [List.cons_append, List.append_assoc] at hFirst ⊢
  unfold readUnsigned
  simp only [Reader.bind_apply, hFirst, hSecond, hThird,
    numberOf_eq_ok hNumber more]
  rfl

/- What is read as a number was written as its numeral. -/
theorem numeral_of_readNumber
    {bytes rest : Bytes}
    {number : Number}
    (hRead : readNumber bytes = .ok (number, rest)) :
    ∃ text, bytes = text ++ rest ∧ Numeral number text := by
  unfold readNumber at hRead
  split at hRead
  · cases hRead
  rename_i first behind
  split at hRead
  · rename_i hMinus
    rcases readUnsigned_eq_ok hRead with
      ⟨b, tail, rfl, hDigit, hAgain⟩
    refine ⟨first :: b :: tail, rfl, ?_, ?_⟩
    · exact ⟨first, b :: tail, rfl, by rw [hMinus]; rfl⟩
    · intro more hMore
      rw [List.cons_append, readNumber, if_pos hMinus]
      exact hAgain more hMore
  · rename_i hMinus
    rcases readUnsigned_eq_ok hRead with
      ⟨b, tail, hBytes, hDigit, hAgain⟩
    refine ⟨b :: tail, hBytes, ?_, ?_⟩
    · exact ⟨b, tail, rfl, by simp [startsNumber, hDigit]⟩
    · intro more hMore
      rw [List.cons_append, readNumber,
        if_neg (minus_ne_of_isDigit hDigit)]
      exact hAgain more hMore

end Json

end NetPlugin
