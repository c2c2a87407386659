import NetPlugin.Proofs.Json.AcceptedScalars
import NetPlugin.Proofs.Json.Skipping

/-
  The documents of a value are those that are read as it.

  What a reader consumes is put together again from the
  texts of its parts, with the blanks between them.  With
  the converse, reading is a relation between values and
  byte sequences that needs no reader to be stated.

  Main declarations:
    * `Json.DocumentText`
    * `Json.ReadsTexts`
    * `Json.readItems_eq_ok` and `Json.readMembers_eq_ok`
    * `Json.readValue_readsTexts`
    * `Json.Value.ofBytes_eq_ok_iff`
-/

------------------------------------------------------------
-- Documents
------------------------------------------------------------

namespace NetPlugin

namespace Json

/-
  The documents of a value: its texts, with blanks around
  them, as long as not too many brackets are open at once.
-/
inductive DocumentText (value : Value) : Bytes → Prop
  | mk
      {before text after : Bytes}
      (hBefore : IsBlanks before)
      (hText : ValueText value text)
      (hAfter : IsBlanks after)
      (hDepth : value.depth ≤ depthLimit) :
      DocumentText value (before ++ (text ++ after))

------------------------------------------------------------
-- Marks
------------------------------------------------------------

/- Only blanks are skipped. -/
theorem exists_blanks
    {bytes rest : Bytes}
    (hSkip : skipBlanks bytes = rest) :
    ∃ blanks, IsBlanks blanks ∧ bytes = blanks ++ rest := by
  refine ⟨bytes.takeWhile isBlank, ?_, ?_⟩
  · intro b hByte
    exact List.all_eq_true.1 List.all_takeWhile b hByte
  · rw [← hSkip]
    exact List.takeWhile_append_dropWhile.symm

theorem isBlanks_append
    {first second : Bytes}
    (hFirst : IsBlanks first)
    (hSecond : IsBlanks second) :
    IsBlanks (first ++ second) := by
  intro b hByte
  rcases List.mem_append.1 hByte with hByte | hByte
  · exact hFirst b hByte
  · exact hSecond b hByte

/- What stands before an item, or before the last bracket. -/
inductive ItemsMark
    (first : Bool)
    (bytes : Bytes) : Bool → Bytes → Prop
  | done
      {blanks rest : Bytes}
      (hBlanks : IsBlanks blanks)
      (hBytes : bytes = blanks ++ Mark.closeArray :: rest) :
      ItemsMark first bytes false (Mark.closeArray :: rest)
  | next
      {blanks gap start : Bytes}
      (hBlanks : IsBlanks blanks)
      (hGap : IsBlanks gap)
      (hBytes :
        bytes =
          blanks ++ (separatorBytes first ++ (gap ++ start))) :
      ItemsMark first bytes true start

theorem moreItems_mark
    {first more : Bool}
    {bytes start : Bytes}
    (hMore : moreItems first bytes = .ok (more, start)) :
    ItemsMark first bytes more start := by
  unfold moreItems at hMore
  split at hMore
  · cases hMore
  rename_i b tail hSkip
  rcases exists_blanks hSkip with ⟨blanks, hBlanks, hBytes⟩
  split at hMore
  · rename_i hClose
    cases hMore
    rw [hClose] at hBytes ⊢
    exact .done hBlanks hBytes
  split at hMore
  · rename_i hFirst
    cases hMore
    subst hFirst
    have hNoGap :
        bytes =
          blanks ++
            (separatorBytes true ++ ([] ++ b :: tail)) :=
      hBytes
    exact .next hBlanks isBlanks_nil hNoGap
  rename_i hFirst
  split at hMore
  · rename_i hComma
    split at hMore
    · cases hMore
    rename_i c after hAfter
    rcases exists_blanks hAfter with ⟨gap, hGap, hTail⟩
    split at hMore
    · cases hMore
    · cases hMore
      apply ItemsMark.next hBlanks hGap
      rw [hBytes, hTail, hComma]
      cases first with
      | true => exact absurd rfl hFirst
      | false => rfl
  · cases hMore

/- The same before the members of an object. -/
inductive MembersMark
    (first : Bool)
    (bytes : Bytes) : Bool → Bytes → Prop
  | done
      {blanks rest : Bytes}
      (hBlanks : IsBlanks blanks)
      (hBytes : bytes = blanks ++ Mark.closeObject :: rest) :
      MembersMark first bytes false (Mark.closeObject :: rest)
  | next
      {blanks gap literal : Bytes}
      (hBlanks : IsBlanks blanks)
      (hGap : IsBlanks gap)
      (hBytes :
        bytes =
          blanks ++
            (separatorBytes first ++
              (gap ++ Mark.quote :: literal))) :
      MembersMark first bytes true (Mark.quote :: literal)

theorem moreMembers_mark
    {first more : Bool}
    {bytes start : Bytes}
    (hMore : moreMembers first bytes = .ok (more, start)) :
    MembersMark first bytes more start := by
  unfold moreMembers at hMore
  split at hMore
  · cases hMore
  rename_i b tail hSkip
  rcases exists_blanks hSkip with ⟨blanks, hBlanks, hBytes⟩
  split at hMore
  · rename_i hClose
    cases hMore
    rw [hClose] at hBytes ⊢
    exact .done hBlanks hBytes
  split at hMore
  · rename_i hFirst
    subst hFirst
    split at hMore
    · rename_i hQuote
      cases hMore
      rw [hQuote] at hBytes ⊢
      have hNoGap :
          bytes =
            blanks ++
              (separatorBytes true ++
                ([] ++ Mark.quote :: tail)) :=
        hBytes
      exact .next hBlanks isBlanks_nil hNoGap
    · cases hMore
  rename_i hFirst
  split at hMore
  · rename_i hComma
    split at hMore
    · cases hMore
    rename_i c after hAfter
    rcases exists_blanks hAfter with ⟨gap, hGap, hTail⟩
    split at hMore
    · rename_i hQuote
      cases hMore
      rw [hQuote] at hTail ⊢
      apply MembersMark.next hBlanks hGap
      rw [hBytes, hTail, hComma]
      cases first with
      | true => exact absurd rfl hFirst
      | false => rfl
    · split at hMore <;> cases hMore
  · cases hMore

theorem colon_eq_ok
    {bytes rest : Bytes}
    (hColon : colon bytes = .ok ((), rest)) :
    ∃ space,
      IsBlanks space ∧
        bytes = space ++ Mark.colon :: rest := by
  unfold colon at hColon
  split at hColon
  · cases hColon
  rename_i b tail hSkip
  split at hColon
  · rename_i hMark
    cases hColon
    rw [hMark] at hSkip
    exact exists_blanks hSkip
  · cases hColon

theorem word_eq_ok
    {letters bytes rest : Bytes}
    (hWord : word letters bytes = .ok ((), rest)) :
    bytes = letters ++ rest := by
  induction letters generalizing bytes with
  | nil =>
      cases bytes <;> cases hWord <;> rfl
  | cons letter letters ih =>
      cases bytes with
      | nil => cases hWord
      | cons b tail =>
          rw [word] at hWord
          split at hWord
          · rename_i hLetter
            rw [hLetter, ih hWord, List.cons_append]
          · cases hWord

------------------------------------------------------------
-- Items and Members
------------------------------------------------------------

/- What a reader consumes is a text of what it reads. -/
def ReadsTexts
    (depth : Nat)
    (item : Reader Value) : Prop :=
  ∀ bytes value rest,
    item bytes = .ok (value, rest) →
    ∃ room text,
      bytes = room ++ (text ++ rest) ∧
        IsBlanks room ∧
        ValueText value text ∧
        value.depth ≤ depth

section Items

variable {depth : Nat} {item : Reader Value}

/- The induction is on the bound, an item at each step. -/
theorem readItems_eq_ok
    (hItem : ReadsTexts depth item)
    {first : Bool}
    {bound : Nat}
    {bytes after : Bytes}
    {values : List Value}
    (hRead :
      readItems item first bound bytes =
        .ok (values, after)) :
    ∃ body rest,
      after = Mark.closeArray :: rest ∧
        bytes = body ++ after ∧
        ItemsText first values body ∧
        Value.itemsDepth values ≤ depth := by
  induction bound generalizing first bytes values with
  | zero => cases hRead
  | succ bound ih =>
      rcases Reader.exists_of_bind hRead with
        ⟨more, start, hMore, hRead⟩
      cases moreItems_mark hMore with
      | @done blanks rest hBlanks hBytes =>
          cases hRead
          exact
            ⟨blanks, rest, rfl, hBytes, .done hBlanks,
              Nat.zero_le _⟩
      | @next blanks gap start hBlanks hGap hBytes =>
          rcases Reader.exists_of_bind hRead with
            ⟨value, between, hValue, hRead⟩
          rcases Reader.exists_of_bind hRead with
            ⟨values, last, hValues, hRead⟩
          cases hRead
          rcases hItem _ _ _ hValue with
            ⟨room, text, rfl, hRoom, hText, hDepth⟩
          rcases ih hValues with
            ⟨body, rest, hAfter, rfl, hBody, hDepths⟩
          refine
            ⟨_, rest, hAfter, ?_,
              .next hBlanks (isBlanks_append hGap hRoom)
                hText hBody,
              Nat.max_le.2 ⟨hDepth, hDepths⟩⟩
          rw [hBytes]
          simp only [List.append_assoc]

theorem readMembers_eq_ok
    (hItem : ReadsTexts depth item)
    {first : Bool}
    {bound : Nat}
    {bytes after : Bytes}
    {members : Members}
    (hRead :
      readMembers item first bound bytes =
        .ok (members, after)) :
    ∃ body rest,
      after = Mark.closeObject :: rest ∧
        bytes = body ++ after ∧
        MembersText first members body ∧
        Value.membersDepth members ≤ depth := by
  induction bound generalizing first bytes members with
  | zero => cases hRead
  | succ bound ih =>
      rcases Reader.exists_of_bind hRead with
        ⟨more, start, hMore, hRead⟩
      cases moreMembers_mark hMore with
      | @done blanks rest hBlanks hBytes =>
          cases hRead
          exact
            ⟨blanks, rest, rfl, hBytes, .done hBlanks,
              Nat.zero_le _⟩
      | @next blanks gap literal hBlanks hGap hBytes =>
          rcases Reader.exists_of_bind hRead with
            ⟨key, named, hKey, hRead⟩
          rcases Reader.exists_of_bind hRead with
            ⟨_, valued, hColon, hRead⟩
          rcases Reader.exists_of_bind hRead with
            ⟨value, between, hValue, hRead⟩
          rcases Reader.exists_of_bind hRead with
            ⟨members, last, hMembers, hRead⟩
          cases hRead
          rcases literalText_of_readString hKey with
            ⟨key, rfl, hLiteral⟩
          rcases colon_eq_ok hColon with
            ⟨space, hSpace, rfl⟩
          rcases hItem _ _ _ hValue with
            ⟨room, text, rfl, hRoom, hText, hDepth⟩
          rcases ih hMembers with
            ⟨body, rest, hAfter, rfl, hBody, hDepths⟩
          refine
            ⟨_, rest, hAfter, ?_,
              .next (.mk hBlanks hGap hLiteral hSpace hRoom)
                hText hBody,
              Nat.max_le.2 ⟨hDepth, hDepths⟩⟩
          rw [hBytes]
          simp only [quoted, List.append_assoc,
            List.cons_append, List.nil_append]

theorem readArray_eq_ok
    (hItem : ReadsTexts depth item)
    {tail rest : Bytes}
    {items : List Value}
    (hRead : readArray item tail = .ok (items, rest)) :
    ∃ body,
      tail = body ++ Mark.closeArray :: rest ∧
        ItemsText true items body ∧
        Value.itemsDepth items ≤ depth := by
  rcases Reader.exists_of_bind hRead with
    ⟨items, between, hItems, hRead⟩
  rcases Reader.exists_of_bind hRead with
    ⟨_, after, hClose, hRead⟩
  cases hRead
  rcases readItems_eq_ok hItem hItems with
    ⟨body, last, rfl, hTail, hBody, hDepth⟩
  cases hClose
  exact ⟨body, hTail, hBody, hDepth⟩

theorem readObject_eq_ok
    (hItem : ReadsTexts depth item)
    {tail rest : Bytes}
    {members : Members}
    (hRead : readObject item tail = .ok (members, rest)) :
    ∃ body,
      tail = body ++ Mark.closeObject :: rest ∧
        MembersText true members body ∧
        Value.membersDepth members ≤ depth := by
  rcases Reader.exists_of_bind hRead with
    ⟨members, between, hMembers, hRead⟩
  rcases Reader.exists_of_bind hRead with
    ⟨_, after, hClose, hRead⟩
  cases hRead
  rcases readMembers_eq_ok hItem hMembers with
    ⟨body, last, rfl, hTail, hBody, hDepth⟩
  cases hClose
  exact ⟨body, hTail, hBody, hDepth⟩

end Items

------------------------------------------------------------
-- Values
------------------------------------------------------------

/-
  One level: a value is put together from the texts of the
  values below its bracket.
-/
theorem ValueCourse.exists_text
    {nested : Option (Reader Value)}
    {depth : Nat}
    (hNested :
      ∀ item,
        nested = some item →
        ∃ below, below < depth ∧ ReadsTexts below item)
    {bytes rest : Bytes}
    {value : Value}
    (hCourse : ValueCourse nested bytes value rest) :
    ∃ room text,
      bytes = room ++ (text ++ rest) ∧
        IsBlanks room ∧
        ValueText value text ∧
        value.depth ≤ depth := by
  cases hCourse with
  | @word b tail rest found hBytes hWord hRead =>
      rcases exists_blanks hBytes with ⟨room, hRoom, rfl⟩
      refine
        ⟨room, b :: found.letters, ?_, hRoom, .word hWord,
          ?_⟩
      · rw [word_eq_ok hRead, List.cons_append]
      · cases found <;> exact Nat.zero_le _
  | @number b tail rest number hBytes hStarts hRead =>
      rcases exists_blanks hBytes with ⟨room, hRoom, rfl⟩
      rcases numeral_of_readNumber hRead with
        ⟨text, hText, hNumeral⟩
      refine
        ⟨room, text, ?_, hRoom, .number hNumeral,
          Nat.zero_le _⟩
      rw [hText]
  | @string tail rest content hBytes hRead =>
      rcases exists_blanks hBytes with ⟨room, hRoom, rfl⟩
      rcases literalText_of_readString hRead with
        ⟨body, rfl, hBody⟩
      refine
        ⟨room, quoted body, ?_, hRoom, .string hBody,
          Nat.zero_le _⟩
      simp only [quoted, List.cons_append, List.append_assoc,
        List.nil_append]
  | @array tail rest item items hBytes hItem hRead =>
      rcases hNested item hItem with ⟨below, hBelow, hTexts⟩
      rcases exists_blanks hBytes with ⟨room, hRoom, rfl⟩
      rcases readArray_eq_ok hTexts hRead with
        ⟨body, rfl, hBody, hDepth⟩
      refine ⟨room, _, ?_, hRoom, .array hBody, ?_⟩
      · simp only [List.cons_append, List.append_assoc,
          List.nil_append]
      · exact Nat.lt_of_le_of_lt hDepth hBelow
  | @object tail rest item members hBytes hItem hRead =>
      rcases hNested item hItem with ⟨below, hBelow, hTexts⟩
      rcases exists_blanks hBytes with ⟨room, hRoom, rfl⟩
      rcases readObject_eq_ok hTexts hRead with
        ⟨body, rfl, hBody, hDepth⟩
      refine ⟨room, _, ?_, hRoom, .object hBody, ?_⟩
      · simp only [List.cons_append, List.append_assoc,
          List.nil_append]
      · exact Nat.lt_of_le_of_lt hDepth hBelow

/- The induction is on the brackets that may be open. -/
theorem readValue_readsTexts (depth : Nat) :
    ReadsTexts depth (readValue depth) := by
  induction depth with
  | zero =>
      intro bytes value rest hRead
      apply
        ValueCourse.exists_text _ (readValueWith_course hRead)
      intro item hNone
      cases hNone
  | succ depth ih =>
      intro bytes value rest hRead
      apply
        ValueCourse.exists_text _ (readValueWith_course hRead)
      intro item hSome
      cases hSome
      exact ⟨depth, Nat.lt_succ_self depth, ih⟩

/- A document is read exactly as what it is a text of. -/
theorem Value.ofBytes_eq_ok_iff
    (input : Bytes)
    (value : Value) :
    ofBytes input = .ok value ↔ DocumentText value input := by
  constructor
  · intro hRead
    unfold ofBytes readDocument at hRead
    split at hRead
    · cases hRead
    rename_i found rest hValue
    split at hRead
    · rename_i hNothing
      cases hRead
      rcases readValue_readsTexts _ _ _ _ hValue with
        ⟨before, text, rfl, hBefore, hText, hDepth⟩
      rcases exists_blanks hNothing with
        ⟨after, hAfter, hRest⟩
      rw [List.append_nil] at hRest
      rw [hRest]
      exact .mk hBefore hText hAfter hDepth
    · cases hRead
  · rintro ⟨hBefore, hText, hAfter, hDepth⟩
    exact ofBytes_text hText hDepth hBefore hAfter

/- A document is a text of one value. -/
theorem DocumentText.unique
    {input : Bytes}
    {value other : Value}
    (hValue : DocumentText value input)
    (hOther : DocumentText other input) :
    value = other := by
  rw [← Value.ofBytes_eq_ok_iff] at hValue hOther
  rw [hValue] at hOther
  exact Except.ok.inj hOther

/- What is no document of a value is not read. -/
theorem Value.exists_error_of_ofBytes
    {input : Bytes}
    (hNone : ∀ value, ¬ DocumentText value input) :
    ∃ e, ofBytes input = .error e := by
  cases hRead : ofBytes input with
  | error e => exact ⟨e, rfl⟩
  | ok value =>
      exact
        absurd ((ofBytes_eq_ok_iff input value).1 hRead)
          (hNone value)

end Json

end NetPlugin
