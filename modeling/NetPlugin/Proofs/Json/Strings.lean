import NetPlugin.Proofs.Json.Grammar
import NetPlugin.Proofs.Text.Utf8

/-
  Reading strings, however their characters are written.

  Every text of a character adds the bytes of the character
  to the contents of a literal, so that the contents are the
  bytes of the string.

  Main declarations:
    * `Json.contents_charText`
    * `Json.contents_literalText`
    * `Json.readString_literalText`
    * `Json.literalText_body`
-/

------------------------------------------------------------
-- Plain Characters
------------------------------------------------------------

namespace NetPlugin

namespace Utf8

/- A code point is one byte, or has only high bytes. -/
theorem byte_of_encodePoint
    {n : Nat}
    (hBound : n < 0x110000)
    {b : UInt8}
    (hByte : b ∈ encodePoint n) :
    n < 0x80 ∧ b.toNat = n ∨ 0x80 ≤ b.toNat := by
  unfold encodePoint at hByte
  split at hByte
  · have hSame := List.mem_singleton.1 hByte
    left
    rw [hSame, toNat_ofNat_of_lt (by omega)]
    omega
  · right
    split at hByte
    · simp only [List.mem_cons, List.not_mem_nil, or_false]
        at hByte
      rcases hByte with rfl | rfl <;>
        rw [toNat_ofNat_of_lt (by omega)] <;> omega
    · split at hByte
      · simp only [List.mem_cons, List.not_mem_nil,
          or_false] at hByte
        rcases hByte with rfl | rfl | rfl <;>
          rw [toNat_ofNat_of_lt (by omega)] <;> omega
      · simp only [List.mem_cons, List.not_mem_nil,
          or_false] at hByte
        rcases hByte with rfl | rfl | rfl | rfl <;>
          rw [toNat_ofNat_of_lt (by omega)] <;> omega

end Utf8

namespace Json

/- The bytes that stand for themselves inside a literal. -/
def IsPlainByte (b : UInt8) : Prop :=
  b ≠ Mark.quote ∧ b ≠ Mark.backslash ∧ ¬ b < 0x20

theorem isPlainByte_iff (b : UInt8) :
    IsPlainByte b ↔
      b.toNat ≠ 0x22 ∧ b.toNat ≠ 0x5C ∧ 0x20 ≤ b.toNat := by
  unfold IsPlainByte
  rw [ne_eq, ne_eq, ← UInt8.toNat_inj, ← UInt8.toNat_inj,
    UInt8.lt_iff_toNat_lt, Nat.not_lt]
  rfl

/- The bytes of a plain character are plain. -/
theorem isPlainByte_of_mem_encodeChar
    {c : Char}
    (hControl : 0x20 ≤ c.toNat)
    (hQuote : c ≠ '"')
    (hBackslash : c ≠ '\\')
    {b : UInt8}
    (hByte : b ∈ Utf8.encodeChar c) :
    IsPlainByte b := by
  have hQuoteCode : c.toNat ≠ 0x22 :=
    fun hSame => hQuote (Char.toNat_inj.1 hSame)
  have hBackslashCode : c.toNat ≠ 0x5C :=
    fun hSame => hBackslash (Char.toNat_inj.1 hSame)
  have hScalar := Utf8.isScalar_toNat c
  unfold Utf8.IsScalar at hScalar
  rw [isPlainByte_iff]
  rcases Utf8.byte_of_encodePoint (by omega) hByte with
    ⟨_, hSame⟩ | hHigh
  · omega
  · omega

/- Contents with some bytes in front. -/
def prependContents
    (bytes : Bytes)
    (result : Except Failure (Bytes × Bytes)) :
    Except Failure (Bytes × Bytes) :=
  result.map fun (more, after) => (bytes ++ more, after)

theorem contents_plain
    {bytes : Bytes}
    (hPlain : ∀ b ∈ bytes, IsPlainByte b)
    (rest : Bytes) :
    contents 0 (bytes ++ rest) =
      prependContents bytes (contents 0 rest) := by
  induction bytes with
  | nil =>
      rw [List.nil_append]
      cases contents 0 rest <;> rfl
  | cons b bytes ih =>
      rw [List.forall_mem_cons] at hPlain
      rcases hPlain with
        ⟨⟨hQuote, hBackslash, hControl⟩, hMore⟩
      rw [List.cons_append, contents, if_neg hQuote,
        if_neg hBackslash, if_neg hControl, ih hMore]
      cases contents 0 rest <;> rfl

------------------------------------------------------------
-- Escapes
------------------------------------------------------------

/- Four digits are read from the front. -/
theorem hexQuad_append
    {digits : Bytes}
    (hLength : digits.length = 4)
    {n : Nat}
    (hDigits : hexQuad digits = .ok n)
    (rest : Bytes) :
    hexQuad (digits ++ rest) = .ok n := by
  match digits, hLength with
  | [a, b, c, d], _ =>
      simp only [hexQuad] at hDigits
      simp only [List.cons_append, List.nil_append, hexQuad]
      split at hDigits
      · simp [*]
      · cases hDigits

/- Bytes of an escape that was read are skipped. -/
theorem contents_length_append
    (skipped rest : Bytes) :
    contents skipped.length (skipped ++ rest) =
      contents 0 rest := by
  induction skipped with
  | nil => rfl
  | cons b more ih => simp [contents, ih]

/- An escape adds the bytes that it stands for. -/
theorem contents_escape
    (escape : Bytes)
    {bytes : Bytes}
    (hSequence :
      ∀ rest,
        escapeSequence (escape ++ rest) =
          .ok (bytes, escape.length))
    (rest : Bytes) :
    contents 0 (Mark.backslash :: (escape ++ rest)) =
      prependContents bytes (contents 0 rest) := by
  have hNotQuote : Mark.backslash ≠ Mark.quote := by decide
  rw [contents, if_neg hNotQuote, if_pos rfl, hSequence]
  simp only [contents_length_append]
  rfl

/- A letter stands for one byte, a character below U+0080. -/
theorem escapeSequence_letter
    {letter byte : UInt8}
    (hLetter : shortEscape? letter = some byte)
    (rest : Bytes) :
    escapeSequence (letter :: rest) =
      .ok
        (Utf8.encodeChar (Char.ofNat byte.toNat), 1) := by
  have hBytes :
      Utf8.encodeChar (Char.ofNat byte.toNat) = [byte] := by
    unfold shortEscape? at hLetter
    repeat' split at hLetter
    all_goals first | cases hLetter; decide | cases hLetter
  rw [escapeSequence, hLetter, hBytes]

/- The letter of numbered escapes is none of the others. -/
theorem escapeSequence_unicode
    {digits : Bytes}
    {point width : Nat}
    (hEscape : unicodeEscape digits = .ok (point, width)) :
    escapeSequence (unicodeLetter :: digits) =
      .ok (Utf8.encodePoint point, width + 1) := by
  have hNotShort : shortEscape? unicodeLetter = none := by
    decide
  rw [escapeSequence, hNotShort]
  simp only [if_true, hEscape]

theorem unicodeEscape_numbered
    {c : Char}
    {digits : Bytes}
    (hLength : digits.length = 4)
    (hDigits : hexQuad digits = .ok c.toNat)
    (rest : Bytes) :
    unicodeEscape (digits ++ rest) = .ok (c.toNat, 4) := by
  have hScalar := Utf8.isScalar_toNat c
  unfold Utf8.IsScalar at hScalar
  have hNotTrailing :
      isTrailingSurrogate c.toNat = false := by
    simp only [isTrailingSurrogate, Bool.and_eq_false_iff,
      decide_eq_false_iff_not]
    omega
  have hNotLeading :
      isLeadingSurrogate c.toNat = false := by
    simp only [isLeadingSurrogate, Bool.and_eq_false_iff,
      decide_eq_false_iff_not]
    omega
  simp [unicodeEscape, hexQuad_append hLength hDigits,
    hNotTrailing, hNotLeading]

theorem unicodeEscape_paired
    {upper lower : Bytes}
    {leading trailing : Nat}
    (hUpper : upper.length = 4)
    (hLower : lower.length = 4)
    (hLeading : hexQuad upper = .ok leading)
    (hTrailing : hexQuad lower = .ok trailing)
    (hFirst : isLeadingSurrogate leading = true)
    (hSecond : isTrailingSurrogate trailing = true)
    (rest : Bytes) :
    unicodeEscape
        (upper ++
          (Mark.backslash :: unicodeLetter ::
            (lower ++ rest))) =
      .ok (pairedPoint leading trailing, 10) := by
  have hNotTrailing :
      isTrailingSurrogate leading = false := by
    simp only [isLeadingSurrogate, Bool.and_eq_true,
      decide_eq_true_eq] at hFirst
    simp only [isTrailingSurrogate, Bool.and_eq_false_iff,
      decide_eq_false_iff_not]
    omega
  have hDrop :
      (upper ++
          (Mark.backslash :: unicodeLetter ::
            (lower ++ rest))).drop 4 =
        Mark.backslash :: unicodeLetter ::
          (lower ++ rest) := by
    rw [← hUpper, List.drop_left]
  simp [unicodeEscape, hexQuad_append hUpper hLeading,
    hNotTrailing, hFirst, hDrop, trailingEscape,
    hexQuad_append hLower hTrailing, hSecond]

------------------------------------------------------------
-- Literals
------------------------------------------------------------

/- Every text of a character adds its bytes. -/
theorem contents_charText
    {c : Char}
    {text : Bytes}
    (hChar : CharText c text)
    (rest : Bytes) :
    contents 0 (text ++ rest) =
      prependContents (Utf8.encodeChar c)
        (contents 0 rest) := by
  cases hChar with
  | plain hControl hQuote hBackslash =>
      apply contents_plain
      intro b hByte
      exact
        isPlainByte_of_mem_encodeChar hControl hQuote
          hBackslash hByte
  | short letter hLetter =>
      apply contents_escape [letter]
      exact escapeSequence_letter hLetter
  | @numbered _ digits hLength hDigits =>
      apply contents_escape (unicodeLetter :: digits)
      intro more
      rw [List.cons_append, escapeSequence_unicode
        (unicodeEscape_numbered hLength hDigits more),
        List.length_cons, hLength, Utf8.encodeChar]
  | @paired _ upper lower leading trailing hUpper hLower
      hLeading hTrailing hFirst hSecond hPoint =>
      apply contents_escape
        (unicodeLetter ::
          (upper ++
            Mark.backslash :: unicodeLetter :: lower))
      intro more
      have hEscape :=
        unicodeEscape_paired hUpper hLower hLeading
          hTrailing hFirst hSecond more
      rw [hPoint] at hEscape
      simp only [List.cons_append, List.append_assoc]
      rw [escapeSequence_unicode hEscape]
      simp [hUpper, hLower, Utf8.encodeChar]

/- The contents of a literal are the bytes of its text. -/
theorem contents_literalText
    {cs : List Char}
    {body : Bytes}
    (hBody : LiteralText cs body)
    (rest : Bytes) :
    contents 0 (body ++ Mark.quote :: rest) =
      .ok (Utf8.encodeChars cs, rest) := by
  induction hBody with
  | nil => simp [contents]
  | cons hChar hMore ih =>
      rw [List.append_assoc, contents_charText hChar, ih]
      rfl

/- A string is read from any of its literals. -/
theorem readString_literalText
    {value : String}
    {body : Bytes}
    (hBody : LiteralText value.toList body)
    (rest : Bytes) :
    readString (body ++ Mark.quote :: rest) =
      .ok (value, rest) := by
  have hDecode := Utf8.decode?_encode value
  rw [Utf8.encode] at hDecode
  rw [readString, contents_literalText hBody]
  simp only [hDecode]

------------------------------------------------------------
-- Written Literals
------------------------------------------------------------

/- The byte of a hexadecimal digit. -/
def digitByte (digit : Nat) : UInt8 :=
  UInt8.ofNat (Nat.digitChar digit).toNat

theorem encodeChar_digitChar :
    ∀ digit < 16,
      Utf8.encodeChar (Nat.digitChar digit) =
        [digitByte digit] := by
  decide

theorem hexDigit?_digitByte :
    ∀ digit < 16,
      hexDigit? (digitByte digit) = some digit := by
  decide

/- A control character is written with its number. -/
theorem encodeChars_controlEscape
    {c : Char}
    (hControl : c.toNat < 0x20) :
    ∃ digits,
      digits.length = 4 ∧
        hexQuad digits = .ok c.toNat ∧
        Utf8.encodeChars (Literal.controlEscape c) =
          Mark.backslash :: unicodeLetter :: digits := by
  have hUpper : c.toNat / 16 < 16 := by omega
  have hLower : c.toNat % 16 < 16 := by omega
  have hValue :
      ((0 * 16 + 0) * 16 + c.toNat / 16) * 16 +
        c.toNat % 16 = c.toNat := by
    omega
  refine
    ⟨[digitByte 0, digitByte 0, digitByte (c.toNat / 16),
      digitByte (c.toNat % 16)], rfl, ?_, ?_⟩
  · rw [hexQuad, hexDigit?_digitByte 0 (by decide),
      hexDigit?_digitByte _ hUpper,
      hexDigit?_digitByte _ hLower]
    simp only [hValue]
  · unfold Literal.controlEscape
    simp only [Utf8.encodeChars_cons, Utf8.encodeChars_nil,
      encodeChar_digitChar _ hUpper,
      encodeChar_digitChar _ hLower]
    rfl

/- An escaped character is a text of the character. -/
theorem charText_escape (c : Char) :
    CharText c (Utf8.encodeChars (Literal.escape c)) := by
  unfold Literal.escape
  split
  · rename_i hSame
    subst hSame
    exact CharText.short 0x22 rfl
  split
  · rename_i hSame
    subst hSame
    exact CharText.short 0x5C rfl
  split
  · rename_i hSame
    subst hSame
    exact CharText.short 0x62 rfl
  split
  · rename_i hSame
    subst hSame
    exact CharText.short 0x74 rfl
  split
  · rename_i hSame
    subst hSame
    exact CharText.short 0x6E rfl
  split
  · rename_i hSame
    subst hSame
    exact CharText.short 0x66 rfl
  split
  · rename_i hSame
    subst hSame
    exact CharText.short 0x72 rfl
  split
  · rename_i hControl
    rcases encodeChars_controlEscape hControl with
      ⟨digits, hLength, hDigits, hBytes⟩
    rw [hBytes]
    exact .numbered hLength hDigits
  -- Every other character stands for itself.
  · rename_i hQuote hBackslash _ _ _ _ _ hControl
    rw [Utf8.encodeChars_cons, Utf8.encodeChars_nil,
      List.append_nil]
    exact .plain (Nat.not_lt.1 hControl) hQuote hBackslash

/- What is written between two quotes is a literal. -/
theorem literalText_body (cs : List Char) :
    LiteralText cs (Utf8.encodeChars (Literal.body cs)) := by
  induction cs with
  | nil => exact .nil
  | cons c cs ih =>
      rw [Literal.body_cons, Utf8.encodeChars_append]
      exact .cons (charText_escape c) ih

theorem encode_literal (text : String) :
    Utf8.encode (literal text) =
      quoted
        (Utf8.encodeChars (Literal.body text.toList)) := by
  simp [Utf8.encode, literal, quoted]
  rfl

end Json

end NetPlugin
