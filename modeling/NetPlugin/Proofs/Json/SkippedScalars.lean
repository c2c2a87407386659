import NetPlugin.Proofs.Json.Reading

/-
  Texts and numbers that can be read can be skipped.

  Skipping checks less than reading, so that it takes the
  same bytes wherever reading succeeds.  The converse fails:
  some literals and numbers are only skipped.

  Main declarations:
    * `Json.Consumes`
    * `Json.Reader.exists_of_bind`
    * `Json.ContentsCourse`
    * `Json.skipString_of_readString`
    * `Json.readNumber_skipped`
-/

------------------------------------------------------------
-- What Is Left
------------------------------------------------------------

namespace NetPlugin

namespace Json

/- A reader leaves an end of the bytes that it is given. -/
def Consumes {α : Type} (reader : Reader α) : Prop :=
  ∀ bytes value rest,
    reader bytes = .ok (value, rest) → rest <:+ bytes

section Reader

variable {α β : Type}

/- Both readers of a sequence that succeeds succeed. -/
theorem Reader.exists_of_bind
    {first : Reader α}
    {next : α → Reader β}
    {bytes rest : Bytes}
    {value : β}
    (hRead : (first >>= next) bytes = .ok (value, rest)) :
    ∃ found between,
      first bytes = .ok (found, between) ∧
        next found between = .ok (value, rest) := by
  rw [Reader.bind_apply] at hRead
  cases hFound : first bytes with
  | error failure =>
      rw [hFound] at hRead
      cases hRead
  | ok found =>
      rw [hFound] at hRead
      exact ⟨found.1, found.2, rfl, hRead⟩

theorem Reader.exists_of_map
    {reader : Reader α}
    {change : α → β}
    {bytes rest : Bytes}
    {value : β}
    (hRead : (change <$> reader) bytes = .ok (value, rest)) :
    ∃ found,
      reader bytes = .ok (found, rest) ∧
        change found = value := by
  rw [Reader.map_apply] at hRead
  cases hFound : reader bytes with
  | error failure =>
      rw [hFound] at hRead
      cases hRead
  | ok found =>
      rw [hFound] at hRead
      cases hRead
      exact ⟨found.1, rfl, rfl⟩

end Reader

theorem skipBlanks_suffix (bytes : Bytes) :
    skipBlanks bytes <:+ bytes :=
  List.dropWhile_suffix isBlank

theorem suffix_of_skipBlanks
    {bytes tail : Bytes}
    {b : UInt8}
    (hBytes : skipBlanks bytes = b :: tail) :
    b :: tail <:+ bytes := by
  rw [← hBytes]
  exact skipBlanks_suffix bytes

theorem tail_suffix_of_skipBlanks
    {bytes tail : Bytes}
    {b : UInt8}
    (hBytes : skipBlanks bytes = b :: tail) :
    tail <:+ bytes :=
  (List.suffix_cons b tail).trans
    (suffix_of_skipBlanks hBytes)

theorem consumes_word (letters : Bytes) :
    Consumes (word letters) := by
  induction letters with
  | nil =>
      intro bytes value rest hRead
      cases bytes <;> cases hRead <;>
        exact List.suffix_refl _
  | cons letter letters ih =>
      intro bytes value rest hRead
      cases bytes with
      | nil => cases hRead
      | cons b tail =>
          rw [word] at hRead
          split at hRead
          · exact
              (ih _ _ _ hRead).trans (List.suffix_cons b tail)
          · cases hRead

------------------------------------------------------------
-- Strings
------------------------------------------------------------

/-
  How contents are read from their first byte on, with the
  bytes that they come to.
-/
inductive ContentsCourse
    (b : UInt8)
    (tail rest : Bytes) : Bytes → Prop
  | closed
      (hQuote : b = Mark.quote)
      (hRest : rest = tail) :
      ContentsCourse b tail rest []
  | escaped
      {bytes raw : Bytes}
      {width : Nat}
      (hQuote : b ≠ Mark.quote)
      (hBackslash : b = Mark.backslash)
      (hEscape : escapeSequence tail = .ok (bytes, width))
      (hMore : contents width tail = .ok (raw, rest)) :
      ContentsCourse b tail rest (bytes ++ raw)
  | plain
      {raw : Bytes}
      (hPlain : IsPlainByte b)
      (hMore : contents 0 tail = .ok (raw, rest)) :
      ContentsCourse b tail rest (b :: raw)

theorem contents_course
    {b : UInt8}
    {tail raw rest : Bytes}
    (hRead : contents 0 (b :: tail) = .ok (raw, rest)) :
    ContentsCourse b tail rest raw := by
  rw [contents] at hRead
  split at hRead
  · rename_i hQuote
    cases hRead
    exact .closed hQuote rfl
  rename_i hQuote
  split at hRead
  · rename_i hBackslash
    split at hRead
    · cases hRead
    · rename_i bytes width hEscape
      cases hMore : contents width tail with
      | error failure =>
          rw [hMore] at hRead
          cases hRead
      | ok found =>
          rw [hMore] at hRead
          cases hRead
          exact .escaped hQuote hBackslash hEscape hMore
  rename_i hBackslash
  split at hRead
  · cases hRead
  · rename_i hControl
    cases hMore : contents 0 tail with
    | error failure =>
        rw [hMore] at hRead
        cases hRead
    | ok found =>
        rw [hMore] at hRead
        cases hRead
        exact .plain ⟨hQuote, hBackslash, hControl⟩ hMore

theorem consumes_contents (skipped : Nat) :
    Consumes (contents skipped) := by
  intro bytes
  induction bytes generalizing skipped with
  | nil =>
      intro raw rest hRead
      cases skipped <;> cases hRead
  | cons b tail ih =>
      intro raw rest hRead
      have hTail := List.suffix_cons b tail
      cases skipped with
      | succ skipped => exact (ih _ _ _ hRead).trans hTail
      | zero =>
          cases contents_course hRead with
          | closed _ hRest =>
              rw [hRest]
              exact hTail
          | escaped _ _ _ hMore =>
              exact (ih _ _ _ hMore).trans hTail
          | plain _ hMore =>
              exact (ih _ _ _ hMore).trans hTail

theorem consumes_readString : Consumes readString := by
  intro bytes value rest hRead
  unfold readString at hRead
  split at hRead
  · cases hRead
  · rename_i raw after hContents
    split at hRead
    · cases hRead
      exact consumes_contents 0 _ _ _ hContents
    · cases hRead

theorem exists_four_of_hexQuad
    {bytes : Bytes}
    {n : Nat}
    (hQuad : hexQuad bytes = .ok n) :
    ∃ a b c d rest, bytes = a :: b :: c :: d :: rest := by
  unfold hexQuad at hQuad
  split at hQuad
  · exact ⟨_, _, _, _, _, rfl⟩
  · cases hQuad

theorem skippedEscape_short
    {b byte : UInt8}
    (hShort : shortEscape? b = some byte)
    (rest : Bytes) :
    skippedEscape (b :: rest) = .ok 1 := by
  unfold skippedEscape
  simp only [hShort]

theorem skippedEscape_unicode
    {digits : Bytes}
    {n : Nat}
    (hQuad : hexQuad digits = .ok n) :
    skippedEscape (unicodeLetter :: digits) = .ok 5 := by
  have hNotShort : shortEscape? unicodeLetter = none := rfl
  unfold skippedEscape
  simp only [hNotShort, if_true, hQuad]

/- The second half of a pair is skipped as its own escape. -/
theorem skipStringFrom_pair
    {leading point : Nat}
    {bytes : Bytes}
    (hTrailing : trailingEscape leading bytes = .ok point) :
    skipStringFrom 0 bytes = skipStringFrom 6 bytes := by
  unfold trailingEscape at hTrailing
  split at hTrailing
  · cases hTrailing
  rename_i b rest
  split at hTrailing
  · cases hTrailing
  rename_i hBackslash
  split at hTrailing
  · cases hTrailing
  rename_i c digits
  split at hTrailing
  · cases hTrailing
  rename_i hLetter
  split at hTrailing
  · cases hTrailing
  rename_i n hQuad
  rw [ne_eq, Decidable.not_not] at hBackslash hLetter
  have hNotQuote : ¬ Mark.backslash = Mark.quote := by
    decide
  rw [hBackslash, hLetter]
  show skipStringFrom 0 _ = skipStringFrom 4 digits
  rw [skipStringFrom, if_neg hNotQuote, if_pos rfl,
    skippedEscape_unicode hQuad]
  rfl

/- An escape is skipped, in two parts if it is a pair. -/
theorem skippedEscape_of_escapeSequence
    {tail bytes : Bytes}
    {width : Nat}
    (hEscape : escapeSequence tail = .ok (bytes, width)) :
    ∃ skipped,
      skippedEscape tail = .ok skipped ∧
        skipStringFrom skipped tail =
          skipStringFrom width tail := by
  unfold escapeSequence at hEscape
  split at hEscape
  · cases hEscape
  rename_i b rest
  split at hEscape
  · rename_i byte hShort
    cases hEscape
    exact ⟨1, skippedEscape_short hShort rest, rfl⟩
  split at hEscape
  · rename_i hLetter
    split at hEscape
    · cases hEscape
    rename_i point count hUnicode
    cases hEscape
    unfold unicodeEscape at hUnicode
    split at hUnicode
    · cases hUnicode
    rename_i n hQuad
    refine ⟨5, ?_, ?_⟩
    · rw [hLetter]
      exact skippedEscape_unicode hQuad
    split at hUnicode
    · cases hUnicode
    split at hUnicode
    · split at hUnicode
      · cases hUnicode
      rename_i hTrailing
      cases hUnicode
      rcases exists_four_of_hexQuad hQuad with
        ⟨_, _, _, _, more, rfl⟩
      exact skipStringFrom_pair hTrailing
    · cases hUnicode
      rfl
  · cases hEscape

theorem skipStringFrom_of_contents
    {skipped : Nat}
    {bytes raw rest : Bytes}
    (hRead : contents skipped bytes = .ok (raw, rest)) :
    skipStringFrom skipped bytes = .ok ((), rest) := by
  induction bytes generalizing skipped raw with
  | nil => cases skipped <;> cases hRead
  | cons b tail ih =>
      cases skipped with
      | succ skipped => exact ih hRead
      | zero =>
          rw [skipStringFrom]
          cases contents_course hRead with
          | closed hQuote hRest =>
              rw [if_pos hQuote, hRest]
          | escaped hQuote hBackslash hEscape hMore =>
              rcases skippedEscape_of_escapeSequence hEscape
                with ⟨short, hShort, hSame⟩
              rw [if_neg hQuote, if_pos hBackslash, hShort]
              simp only [hSame]
              exact ih hMore
          | plain hPlain hMore =>
              rcases hPlain with
                ⟨hQuote, hBackslash, hControl⟩
              rw [if_neg hQuote, if_neg hBackslash,
                if_neg hControl]
              exact ih hMore

/- A string that is read can be skipped. -/
theorem skipString_of_readString
    {bytes rest : Bytes}
    {value : String}
    (hRead : readString bytes = .ok (value, rest)) :
    skipString bytes = .ok ((), rest) := by
  unfold readString at hRead
  split at hRead
  · cases hRead
  · rename_i raw after hContents
    split at hRead
    · cases hRead
      exact skipStringFrom_of_contents hContents
    · cases hRead

------------------------------------------------------------
-- Numbers
------------------------------------------------------------

theorem afterDigits_suffix (bytes : Bytes) :
    afterDigits bytes <:+ bytes :=
  List.dropWhile_suffix isDigit

theorem wholeDigits_skipped
    {bytes digits rest : Bytes}
    (hRead : wholeDigits bytes = .ok (digits, rest)) :
    skipWhole bytes = .ok ((), rest) ∧ rest <:+ bytes := by
  unfold wholeDigits at hRead
  unfold skipWhole
  split at hRead
  · cases hRead
  rename_i b tail
  have hTail := List.suffix_cons b tail
  split at hRead
  · rename_i hZero
    split at hRead
    · cases hRead
      refine ⟨?_, hTail⟩
      simp only [if_pos hZero]
    · cases hRead
  · rename_i hZero
    split at hRead
    · rename_i hDigit
      cases hRead
      refine ⟨?_, (afterDigits_suffix tail).trans hTail⟩
      simp only [if_neg hZero, if_pos hDigit]
    · cases hRead

theorem fractionDigits_skipped
    {bytes rest : Bytes}
    {digits : Option Bytes}
    (hRead : fractionDigits bytes = .ok (digits, rest)) :
    skipFraction bytes = .ok ((), rest) ∧ rest <:+ bytes := by
  unfold fractionDigits at hRead
  unfold skipFraction
  split at hRead
  · cases hRead
    exact ⟨rfl, List.suffix_refl _⟩
  rename_i b tail
  have hTail := List.suffix_cons b tail
  split at hRead
  · rename_i hPoint
    split at hRead
    · split at hRead
      · cases hRead
      · cases hRead
    · cases hRead
      refine ⟨?_, (afterDigits_suffix tail).trans hTail⟩
      simp only [if_pos hPoint]
  · rename_i hPoint
    cases hRead
    refine ⟨?_, List.suffix_refl _⟩
    simp only [if_neg hPoint]

theorem exponentSign_suffix (bytes : Bytes) :
    (exponentSign bytes).2 <:+ bytes := by
  unfold exponentSign
  split
  · exact List.suffix_refl _
  · split
    · exact List.suffix_cons _ _
    · split
      · exact List.suffix_cons _ _
      · exact List.suffix_refl _

theorem exponentDigits_skipped
    {bytes rest : Bytes}
    {exponent : Option Exponent}
    (hRead : exponentDigits bytes = .ok (exponent, rest)) :
    skipExponent bytes = .ok ((), rest) ∧ rest <:+ bytes := by
  unfold exponentDigits at hRead
  unfold skipExponent
  split at hRead
  · cases hRead
    exact ⟨rfl, List.suffix_refl _⟩
  rename_i b tail
  have hTail := List.suffix_cons b tail
  split at hRead
  · rename_i hMark
    have hSuffix := exponentSign_suffix tail
    rcases hSign : exponentSign tail with ⟨negative, behind⟩
    rw [hSign] at hRead hSuffix
    cases behind with
    | nil => cases hRead
    | cons digit after =>
        simp only at hRead
        split at hRead
        · rename_i hDigit
          cases hRead
          have hAfter := List.suffix_cons digit after
          refine ⟨?_, ?_⟩
          · simp only [if_pos hMark, if_pos hDigit]
          · exact
              (afterDigits_suffix after).trans
                (hAfter.trans (hSuffix.trans hTail))
        · cases hRead
  · rename_i hMark
    cases hRead
    refine ⟨?_, List.suffix_refl _⟩
    simp only [if_neg hMark]

theorem readUnsigned_skipped
    {negative : Bool}
    {bytes rest : Bytes}
    {number : Number}
    (hRead :
      readUnsigned negative bytes = .ok (number, rest)) :
    (do
        skipWhole
        skipFraction
        skipExponent : Reader Unit) bytes = .ok ((), rest) ∧
      rest <:+ bytes := by
  rcases Reader.exists_of_bind hRead with
    ⟨whole, first, hWhole, hRead⟩
  rcases Reader.exists_of_bind hRead with
    ⟨fraction, second, hFraction, hRead⟩
  rcases Reader.exists_of_bind hRead with
    ⟨exponent, last, hExponent, hRead⟩
  have hRest : last = rest := by
    cases hNumber :
        numberOf negative whole fraction exponent last with
    | error failure =>
        rw [hNumber] at hRead
        cases hRead
    | ok found =>
        rw [hNumber] at hRead
        cases hRead
        rfl
  subst hRest
  rcases wholeDigits_skipped hWhole with ⟨hFirst, hWhole⟩
  rcases fractionDigits_skipped hFraction with
    ⟨hSecond, hFraction⟩
  rcases exponentDigits_skipped hExponent with
    ⟨hLast, hExponent⟩
  refine ⟨?_, hExponent.trans (hFraction.trans hWhole)⟩
  simp only [Reader.bind_apply, hFirst, hSecond, hLast]

/- A number that is read can be skipped. -/
theorem readNumber_skipped
    {bytes rest : Bytes}
    {number : Number}
    (hRead : readNumber bytes = .ok (number, rest)) :
    skipNumber bytes = .ok ((), rest) ∧ rest <:+ bytes := by
  unfold readNumber at hRead
  unfold skipNumber
  split at hRead
  · cases hRead
  rename_i b tail
  split at hRead
  · rename_i hMinus
    rcases readUnsigned_skipped hRead with ⟨hSkip, hSuffix⟩
    refine
      ⟨?_, hSuffix.trans (List.suffix_cons b tail)⟩
    simp only [if_pos hMinus]
    exact hSkip
  · rename_i hMinus
    simp only [if_neg hMinus]
    exact readUnsigned_skipped hRead

end Json

end NetPlugin
