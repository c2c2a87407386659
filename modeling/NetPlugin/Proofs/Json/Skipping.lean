import NetPlugin.Proofs.Json.SkippedScalars

/-
  A value that can be read can be skipped, up to the same
  end.

  Reading is bounded by its depth and skipping by the number
  of bytes; the bytes that are left are an end of those that
  were given, so that the second bound is never reached.

  Main declarations:
    * `Json.SkipsUpTo`
    * `Json.readItems_skipped` and
      `Json.readMembers_skipped`
    * `Json.ValueCourse` and `Json.readValueWith_course`
    * `Json.skipValue_of_readValue`
-/

------------------------------------------------------------
-- Items and Members
------------------------------------------------------------

namespace NetPlugin

namespace Json

/-
  Another item that follows is also seen by skipping, which
  may stop at blanks before it; the closing bracket is
  consumed by skipping only.
-/
theorem moreItems_skipped
    {first more : Bool}
    {bytes start : Bytes}
    (hMore : moreItems first bytes = .ok (more, start)) :
    start <:+ bytes ∧
      match more with
      | true =>
          ∃ behind,
            moreSkippedItems first bytes =
                .ok (true, behind) ∧
              skipBlanks behind = start
      | false =>
          ∃ after,
            moreSkippedItems first bytes =
                .ok (false, after) ∧
              start = Mark.closeArray :: after := by
  unfold moreItems at hMore
  unfold moreSkippedItems
  cases hBytes : skipBlanks bytes with
  | nil =>
      rw [hBytes] at hMore
      cases hMore
  | cons b tail =>
      rw [hBytes] at hMore
      dsimp only at hMore ⊢
      have hSuffix := suffix_of_skipBlanks hBytes
      have hSame : skipBlanks (b :: tail) = b :: tail := by
        rw [← hBytes, skipBlanks_skipBlanks]
      split at hMore
      · rename_i hClose
        cases hMore
        refine ⟨hSuffix, tail, ?_, by rw [hClose]⟩
        rw [if_pos hClose]
      rename_i hClose
      split at hMore
      · rename_i hFirst
        cases hMore
        refine ⟨hSuffix, b :: tail, ?_, hSame⟩
        rw [if_neg hClose, if_pos hFirst]
      rename_i hFirst
      split at hMore
      · rename_i hComma
        split at hMore
        · cases hMore
        rename_i c after hAfter
        split at hMore
        · cases hMore
        · cases hMore
          refine
            ⟨(suffix_of_skipBlanks hAfter).trans
                (tail_suffix_of_skipBlanks hBytes),
              tail, ?_, hAfter⟩
          rw [if_neg hClose, if_neg hFirst, if_pos hComma]
      · cases hMore

/- The same holds of members, which begin with a quote. -/
theorem moreMembers_skipped
    {first more : Bool}
    {bytes start : Bytes}
    (hMore : moreMembers first bytes = .ok (more, start)) :
    start <:+ bytes ∧
      match more with
      | true =>
          ∃ behind key,
            moreSkippedMembers first bytes =
                .ok (true, behind) ∧
              skipBlanks behind = start ∧
              start = Mark.quote :: key
      | false =>
          ∃ after,
            moreSkippedMembers first bytes =
                .ok (false, after) ∧
              start = Mark.closeObject :: after := by
  unfold moreMembers at hMore
  unfold moreSkippedMembers
  cases hBytes : skipBlanks bytes with
  | nil =>
      rw [hBytes] at hMore
      cases hMore
  | cons b tail =>
      rw [hBytes] at hMore
      dsimp only at hMore ⊢
      have hSuffix := suffix_of_skipBlanks hBytes
      have hSame : skipBlanks (b :: tail) = b :: tail := by
        rw [← hBytes, skipBlanks_skipBlanks]
      split at hMore
      · rename_i hClose
        cases hMore
        refine ⟨hSuffix, tail, ?_, by rw [hClose]⟩
        rw [if_pos hClose]
      rename_i hClose
      split at hMore
      · rename_i hFirst
        split at hMore
        · rename_i hQuote
          cases hMore
          refine
            ⟨hSuffix, b :: tail, tail, ?_, hSame, by rw [hQuote]⟩
          rw [if_neg hClose, if_pos hFirst]
        · cases hMore
      rename_i hFirst
      split at hMore
      · rename_i hComma
        split at hMore
        · cases hMore
        rename_i c after hAfter
        split at hMore
        · rename_i hQuote
          cases hMore
          refine
            ⟨(suffix_of_skipBlanks hAfter).trans
                (tail_suffix_of_skipBlanks hBytes),
              tail, after, ?_, hAfter, by rw [hQuote]⟩
          rw [if_neg hClose, if_neg hFirst, if_pos hComma]
        · split at hMore <;> cases hMore
      · cases hMore

theorem colon_suffix
    {bytes rest : Bytes}
    (hColon : colon bytes = .ok ((), rest)) :
    rest <:+ bytes := by
  unfold colon at hColon
  split at hColon
  · cases hColon
  · rename_i b tail hBytes
    split at hColon
    · cases hColon
      exact tail_suffix_of_skipBlanks hBytes
    · cases hColon

section Items

variable {α : Type} {item : Reader α} {skip : Reader Unit}
variable {limit : Nat}

/- What can be read of a limited length can be skipped. -/
def SkipsUpTo
    (limit : Nat)
    (item : Reader α)
    (skip : Reader Unit) : Prop :=
  ∀ bytes value rest,
    bytes.length ≤ limit →
    item bytes = .ok (value, rest) →
    skip bytes = .ok ((), rest) ∧ rest <:+ bytes

/- The induction is on the bound, which both share. -/
theorem readItems_skipped
    (hItem : SkipsUpTo limit item skip)
    (hBlanks :
      ∀ bytes, skip (skipBlanks bytes) = skip bytes)
    {first : Bool}
    {bound : Nat}
    {bytes after : Bytes}
    {values : List α}
    (hLength : bytes.length ≤ limit)
    (hRead :
      readItems item first bound bytes =
        .ok (values, after)) :
    ∃ rest,
      after = Mark.closeArray :: rest ∧
        skipItems skip first bound bytes = .ok ((), rest) ∧
        rest <:+ bytes := by
  induction bound generalizing first bytes values with
  | zero => cases hRead
  | succ bound ih =>
      rcases Reader.exists_of_bind hRead with
        ⟨more, start, hMore, hRead⟩
      have hSkipped := moreItems_skipped hMore
      rcases hSkipped with ⟨hStart, hSkipped⟩
      rw [skipItems, Reader.bind_apply]
      cases more with
      | false =>
          rcases hSkipped with ⟨rest, hSkip, rfl⟩
          cases hRead
          rw [hSkip]
          refine ⟨rest, rfl, rfl, ?_⟩
          exact (List.suffix_cons _ rest).trans hStart
      | true =>
          rcases hSkipped with ⟨behind, hSkip, hBehind⟩
          rcases Reader.exists_of_bind hRead with
            ⟨value, between, hValue, hRead⟩
          rcases Reader.exists_of_bind hRead with
            ⟨more, last, hMore, hRead⟩
          cases hRead
          have hStartLength := hStart.length_le
          rcases hItem start _ _ (by omega) hValue with
            ⟨hSkipValue, hBetween⟩
          have hBetweenLength := hBetween.length_le
          rcases ih (by omega) hMore with
            ⟨rest, hAfter, hSkipMore, hRest⟩
          refine ⟨rest, hAfter, ?_, ?_⟩
          · rw [← hBehind, hBlanks] at hSkipValue
            rw [hSkip]
            simp only [if_true, Reader.bind_apply,
              hSkipValue, hSkipMore]
          · exact hRest.trans (hBetween.trans hStart)

theorem readMembers_skipped
    (hItem : SkipsUpTo limit item skip)
    {first : Bool}
    {bound : Nat}
    {bytes after : Bytes}
    {members : List (String × α)}
    (hLength : bytes.length ≤ limit)
    (hRead :
      readMembers item first bound bytes =
        .ok (members, after)) :
    ∃ rest,
      after = Mark.closeObject :: rest ∧
        skipMembers skip first bound bytes = .ok ((), rest) ∧
        rest <:+ bytes := by
  induction bound generalizing first bytes members with
  | zero => cases hRead
  | succ bound ih =>
      rcases Reader.exists_of_bind hRead with
        ⟨more, start, hMore, hRead⟩
      rcases moreMembers_skipped hMore with
        ⟨hStart, hSkipped⟩
      rw [skipMembers, Reader.bind_apply]
      cases more with
      | false =>
          rcases hSkipped with ⟨rest, hSkip, rfl⟩
          cases hRead
          rw [hSkip]
          refine ⟨rest, rfl, rfl, ?_⟩
          exact (List.suffix_cons _ rest).trans hStart
      | true =>
          rcases hSkipped with
            ⟨behind, literal, hSkip, hBehind, rfl⟩
          rcases Reader.exists_of_bind hRead with
            ⟨key, named, hKey, hRead⟩
          rcases Reader.exists_of_bind hRead with
            ⟨_, valued, hColon, hRead⟩
          rcases Reader.exists_of_bind hRead with
            ⟨value, between, hValue, hRead⟩
          rcases Reader.exists_of_bind hRead with
            ⟨more, last, hMore, hRead⟩
          cases hRead
          have hSkipKey : skipKey behind = .ok ((), named) := by
            unfold skipKey
            rw [hBehind]
            exact skipString_of_readString hKey
          have hNamed : named <:+ literal :=
            consumes_readString _ _ _ hKey
          have hValued := colon_suffix hColon
          have hValuedBytes : valued <:+ bytes :=
            hValued.trans
              (hNamed.trans
                ((List.suffix_cons _ literal).trans hStart))
          have hValuedLength := hValuedBytes.length_le
          rcases hItem valued _ _ (by omega) hValue with
            ⟨hSkipValue, hBetween⟩
          have hBetweenLength := hBetween.length_le
          rcases ih (by omega) hMore with
            ⟨rest, hAfter, hSkipMore, hRest⟩
          refine ⟨rest, hAfter, ?_, ?_⟩
          · rw [hSkip]
            simp only [if_true, Reader.bind_apply, hSkipKey,
              hColon, hSkipValue, hSkipMore]
          · exact hRest.trans (hBetween.trans hValuedBytes)

end Items

------------------------------------------------------------
-- Values
------------------------------------------------------------

/- How a value is read from its first byte on. -/
inductive ValueCourse
    (nested : Option (Reader Value))
    (bytes : Bytes) : Value → Bytes → Prop
  | word
      {b : UInt8}
      {tail rest : Bytes}
      {found : Word}
      (hBytes : skipBlanks bytes = b :: tail)
      (hWord : Word.ofByte? b = some found)
      (hRead : word found.letters tail = .ok ((), rest)) :
      ValueCourse nested bytes found.value rest
  | number
      {b : UInt8}
      {tail rest : Bytes}
      {number : Number}
      (hBytes : skipBlanks bytes = b :: tail)
      (hStarts : startsNumber b = true)
      (hRead : readNumber (b :: tail) = .ok (number, rest)) :
      ValueCourse nested bytes (.number number) rest
  | string
      {tail rest : Bytes}
      {content : String}
      (hBytes : skipBlanks bytes = Mark.quote :: tail)
      (hRead : readString tail = .ok (content, rest)) :
      ValueCourse nested bytes (.string content) rest
  | array
      {tail rest : Bytes}
      {item : Reader Value}
      {items : List Value}
      (hBytes : skipBlanks bytes = Mark.openArray :: tail)
      (hNested : nested = some item)
      (hRead : readArray item tail = .ok (items, rest)) :
      ValueCourse nested bytes (.array items) rest
  | object
      {tail rest : Bytes}
      {item : Reader Value}
      {members : List (String × Value)}
      (hBytes : skipBlanks bytes = Mark.openObject :: tail)
      (hNested : nested = some item)
      (hRead : readObject item tail = .ok (members, rest)) :
      ValueCourse nested bytes (.object members) rest

theorem readValueWith_course
    {nested : Option (Reader Value)}
    {bytes rest : Bytes}
    {value : Value}
    (hRead : readValueWith nested bytes = .ok (value, rest)) :
    ValueCourse nested bytes value rest := by
  unfold readValueWith at hRead
  split at hRead
  · cases hRead
  rename_i b tail hBytes
  split at hRead
  · rename_i found hWord
    rcases Reader.exists_of_bind hRead with
      ⟨_, after, hLetters, hRead⟩
    cases hRead
    exact .word hBytes hWord hLetters
  split at hRead
  · rename_i hStarts
    rcases Reader.exists_of_map hRead with
      ⟨number, hNumber, rfl⟩
    exact .number hBytes hStarts hNumber
  split at hRead
  · rename_i hQuote
    rcases Reader.exists_of_map hRead with
      ⟨content, hString, rfl⟩
    rw [hQuote] at hBytes
    exact .string hBytes hString
  split at hRead
  · rename_i hOpen
    rw [hOpen] at hBytes
    split at hRead
    · cases hRead
    · rcases Reader.exists_of_map hRead with
        ⟨items, hArray, rfl⟩
      exact .array hBytes rfl hArray
  split at hRead
  · rename_i hOpen
    rw [hOpen] at hBytes
    split at hRead
    · cases hRead
    · rcases Reader.exists_of_map hRead with
        ⟨members, hObject, rfl⟩
      exact .object hBytes rfl hObject
  · cases hRead

theorem skipNested_skipBlanks
    (bound : Nat)
    (bytes : Bytes) :
    skipNested bound (skipBlanks bytes) =
      skipNested bound bytes := by
  cases bound with
  | zero => rfl
  | succ bound =>
      simp only [skipNested, skipBlanks_skipBlanks]

/- Skipping an array or object behind its bracket. -/
theorem readArray_skipped
    {item : Reader Value}
    {bound : Nat}
    {tail rest : Bytes}
    {items : List Value}
    (hItem :
      SkipsUpTo tail.length item (skipNested bound))
    (hRead : readArray item tail = .ok (items, rest)) :
    skipItems (skipNested bound) true (tail.length + 1) tail =
        .ok ((), rest) ∧
      rest <:+ tail := by
  rcases Reader.exists_of_bind hRead with
    ⟨items, between, hItems, hRead⟩
  rcases Reader.exists_of_bind hRead with
    ⟨_, after, hClose, hRead⟩
  cases hRead
  rcases readItems_skipped hItem
      (skipNested_skipBlanks bound) (Nat.le_refl _) hItems
    with ⟨last, rfl, hSkip, hSuffix⟩
  cases hClose
  exact ⟨hSkip, hSuffix⟩

theorem readObject_skipped
    {item : Reader Value}
    {bound : Nat}
    {tail rest : Bytes}
    {members : List (String × Value)}
    (hItem :
      SkipsUpTo tail.length item (skipNested bound))
    (hRead : readObject item tail = .ok (members, rest)) :
    skipMembers (skipNested bound) true (tail.length + 1)
        tail =
        .ok ((), rest) ∧
      rest <:+ tail := by
  rcases Reader.exists_of_bind hRead with
    ⟨members, between, hMembers, hRead⟩
  rcases Reader.exists_of_bind hRead with
    ⟨_, after, hClose, hRead⟩
  cases hRead
  rcases readMembers_skipped hItem (Nat.le_refl _) hMembers
    with ⟨last, rfl, hSkip, hSuffix⟩
  cases hClose
  exact ⟨hSkip, hSuffix⟩

/-
  One level: a value is skipped if those below it are.  The
  brackets around them take one byte.
-/
theorem ValueCourse.skipped
    {nested : Option (Reader Value)}
    {bound : Nat}
    (hNested :
      ∀ item,
        nested = some item →
        ∀ limit < bound,
          SkipsUpTo limit item (skipNested bound))
    {bytes rest : Bytes}
    {value : Value}
    (hLength : bytes.length ≤ bound)
    (hCourse : ValueCourse nested bytes value rest) :
    skipNested (bound + 1) bytes = .ok ((), rest) ∧
      rest <:+ bytes := by
  cases hCourse with
  | @word b tail rest found hBytes hWord hRead =>
      refine ⟨?_, ?_⟩
      · unfold skipNested
        simp only [hBytes, hWord, hRead]
      · exact
          (consumes_word _ _ _ _ hRead).trans
            (tail_suffix_of_skipBlanks hBytes)
  | @number b tail rest number hBytes hStarts hRead =>
      rcases readNumber_skipped hRead with ⟨hSkip, hSuffix⟩
      refine ⟨?_, ?_⟩
      · unfold skipNested
        simp only [hBytes, ofByte?_of_startsNumber hStarts,
          hStarts, if_true, hSkip]
      · exact hSuffix.trans (suffix_of_skipBlanks hBytes)
  | @string tail rest content hBytes hRead =>
      refine ⟨?_, ?_⟩
      · rw [← skipNested_skipBlanks, hBytes]
        exact skipString_of_readString hRead
      · exact
          (consumes_readString _ _ _ hRead).trans
            (tail_suffix_of_skipBlanks hBytes)
  | @array tail rest item items hBytes hItem hRead =>
      -- The bracket is a byte that those below do not have.
      have hTail := (suffix_of_skipBlanks hBytes).length_le
      rw [List.length_cons] at hTail
      rcases readArray_skipped
          (hNested item hItem tail.length (by omega)) hRead
        with ⟨hSkip, hSuffix⟩
      refine ⟨?_, ?_⟩
      · rw [← skipNested_skipBlanks, hBytes]
        exact hSkip
      · exact
          hSuffix.trans (tail_suffix_of_skipBlanks hBytes)
  | @object tail rest item members hBytes hItem hRead =>
      have hTail := (suffix_of_skipBlanks hBytes).length_le
      rw [List.length_cons] at hTail
      rcases readObject_skipped
          (hNested item hItem tail.length (by omega)) hRead
        with ⟨hSkip, hSuffix⟩
      refine ⟨?_, ?_⟩
      · rw [← skipNested_skipBlanks, hBytes]
        exact hSkip
      · exact
          hSuffix.trans (tail_suffix_of_skipBlanks hBytes)

/- The induction is on the brackets that may be open. -/
theorem readValue_skipped
    (depth : Nat)
    {limit bound : Nat}
    (hBound : limit < bound) :
    SkipsUpTo limit (readValue depth) (skipNested bound) := by
  induction depth generalizing limit bound with
  | zero =>
      intro bytes value rest hLength hRead
      rcases Nat.exists_eq_succ_of_ne_zero
        (Nat.ne_zero_of_lt hBound) with ⟨bound, rfl⟩
      apply
        ValueCourse.skipped _ (by omega)
          (readValueWith_course hRead)
      intro item hNone
      cases hNone
  | succ depth ih =>
      intro bytes value rest hLength hRead
      rcases Nat.exists_eq_succ_of_ne_zero
        (Nat.ne_zero_of_lt hBound) with ⟨bound, rfl⟩
      apply
        ValueCourse.skipped _ (by omega)
          (readValueWith_course hRead)
      intro item hSome limit hLimit
      cases hSome
      exact ih hLimit

/- A value that can be read can be skipped, to one end. -/
theorem skipValue_of_readValue
    {depth : Nat}
    {bytes rest : Bytes}
    {value : Value}
    (hRead : readValue depth bytes = .ok (value, rest)) :
    skipValue bytes = .ok ((), rest) := by
  have hSkips :=
    readValue_skipped depth (Nat.lt_succ_self bytes.length)
  exact (hSkips bytes value rest (Nat.le_refl _) hRead).1

end Json

end NetPlugin
