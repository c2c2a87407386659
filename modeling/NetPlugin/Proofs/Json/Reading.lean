import NetPlugin.Proofs.Json.Integers

/-
  Every text of a value is read as this value.

  The reader of values is followed from the marks between
  the parts to whole documents.  The induction is on the
  number of brackets that may be open at once, with one on
  the items or members inside.

  Main declarations:
    * `Json.Reads`
    * `Json.MemberHead.reads`
    * `Json.readItems_text` and `Json.readMembers_text`
    * `Json.readValue_text`
    * `Json.Value.ofBytes_text`
-/

------------------------------------------------------------
-- Blanks
------------------------------------------------------------

namespace NetPlugin

namespace Json

theorem skipBlanks_append
    {blanks : Bytes}
    (hBlanks : IsBlanks blanks)
    (rest : Bytes) :
    skipBlanks (blanks ++ rest) = skipBlanks rest :=
  List.dropWhile_append_of_pos hBlanks

theorem skipBlanks_cons
    {b : UInt8}
    (hBlank : isBlank b = false)
    (rest : Bytes) :
    skipBlanks (b :: rest) = b :: rest := by
  simp [skipBlanks, hBlank]

theorem isBlanks_nil : IsBlanks [] := by
  simp [IsBlanks]

/- A reader of values does not see blanks in front. -/
theorem readValueWith_skipBlanks
    (nested : Option (Reader Value))
    (bytes : Bytes) :
    readValueWith nested (skipBlanks bytes) =
      readValueWith nested bytes := by
  unfold readValueWith
  rw [skipBlanks_skipBlanks]

------------------------------------------------------------
-- Marks
------------------------------------------------------------

/- The closing bracket is seen behind blanks. -/
theorem moreItems_done
    (first : Bool)
    {blanks : Bytes}
    (hBlanks : IsBlanks blanks)
    (rest : Bytes) :
    moreItems first (blanks ++ Mark.closeArray :: rest) =
      .ok (false, Mark.closeArray :: rest) := by
  unfold moreItems
  rw [skipBlanks_append hBlanks, skipBlanks_cons rfl]
  simp

theorem moreMembers_done
    (first : Bool)
    {blanks : Bytes}
    (hBlanks : IsBlanks blanks)
    (rest : Bytes) :
    moreMembers first (blanks ++ Mark.closeObject :: rest) =
      .ok (false, Mark.closeObject :: rest) := by
  unfold moreMembers
  rw [skipBlanks_append hBlanks, skipBlanks_cons rfl]
  simp

/- Another item begins behind a comma, if one is needed. -/
theorem moreItems_next
    (first : Bool)
    {blanks gap : Bytes}
    (hBlanks : IsBlanks blanks)
    (hGap : IsBlanks gap)
    {b : UInt8}
    (hBlank : isBlank b = false)
    (hClose : b ≠ Mark.closeArray)
    (rest : Bytes) :
    moreItems first
        (blanks ++
          (separatorBytes first ++ (gap ++ b :: rest))) =
      .ok (true, b :: rest) := by
  unfold moreItems
  rw [skipBlanks_append hBlanks]
  cases first with
  | true =>
      have hNone : separatorBytes true = [] := rfl
      rw [hNone, List.nil_append, skipBlanks_append hGap,
        skipBlanks_cons hBlank]
      simp [hClose]
  | false =>
      have hComma : separatorBytes false = [Mark.comma] := rfl
      have hNotClose : Mark.comma ≠ Mark.closeArray := by
        decide
      rw [hComma, List.singleton_append, skipBlanks_cons rfl]
      simp [hNotClose, skipBlanks_append hGap,
        skipBlanks_cons hBlank, hClose]

/- Another member begins with the quote of its key. -/
theorem moreMembers_next
    (first : Bool)
    {blanks gap : Bytes}
    (hBlanks : IsBlanks blanks)
    (hGap : IsBlanks gap)
    (rest : Bytes) :
    moreMembers first
        (blanks ++
          (separatorBytes first ++
            (gap ++ Mark.quote :: rest))) =
      .ok (true, Mark.quote :: rest) := by
  have hQuote : Mark.quote ≠ Mark.closeObject := by decide
  unfold moreMembers
  rw [skipBlanks_append hBlanks]
  cases first with
  | true =>
      have hNone : separatorBytes true = [] := rfl
      rw [hNone, List.nil_append, skipBlanks_append hGap,
        skipBlanks_cons rfl]
      simp [hQuote]
  | false =>
      have hComma : separatorBytes false = [Mark.comma] := rfl
      have hNotClose : Mark.comma ≠ Mark.closeObject := by
        decide
      rw [hComma, List.singleton_append, skipBlanks_cons rfl]
      simp [hNotClose, skipBlanks_append hGap,
        skipBlanks_cons (b := Mark.quote) rfl]

theorem readKey_quoted
    {key : String}
    {body : Bytes}
    (hKey : LiteralText key.toList body)
    (rest : Bytes) :
    readKey (quoted body ++ rest) = .ok (key, rest) := by
  unfold readKey quoted
  rw [List.cons_append, List.drop_one, List.tail_cons,
    List.append_assoc, List.singleton_append]
  exact readString_literalText hKey rest

theorem colon_append
    {space : Bytes}
    (hSpace : IsBlanks space)
    (rest : Bytes) :
    colon (space ++ Mark.colon :: rest) = .ok ((), rest) := by
  unfold colon
  rw [skipBlanks_append hSpace, skipBlanks_cons rfl]
  simp

/-
  What stands before the value of a member is read as its
  key; blanks before the value may be left.
-/
theorem MemberHead.reads
    {first : Bool}
    {key : String}
    {head : Bytes}
    (hHead : MemberHead first key head)
    (rest : Bytes) :
    ∃ start named room,
      moreMembers first (head ++ rest) = .ok (true, start) ∧
        readKey start = .ok (key, named) ∧
        colon named = .ok ((), room ++ rest) ∧
        IsBlanks room := by
  cases hHead with
  | @mk blanks gap body space room hBlanks hGap hKey hSpace
      hRoom =>
      refine
        ⟨quoted body ++
            (space ++ Mark.colon :: (room ++ rest)),
          space ++ Mark.colon :: (room ++ rest), room, ?_,
          readKey_quoted hKey _, colon_append hSpace _,
          hRoom⟩
      simp only [List.append_assoc, List.cons_append]
      exact moreMembers_next first hBlanks hGap _

------------------------------------------------------------
-- Ends of Values
------------------------------------------------------------

theorem not_continuesNumber_of_isBlank
    {b : UInt8}
    (hBlank : isBlank b = true) :
    continuesNumber b = false := by
  simp only [isBlank, Bool.or_eq_true, beq_iff_eq] at hBlank
  rcases hBlank with ((rfl | rfl) | rfl) | rfl <;> rfl

/- Behind blanks it is the next byte that matters. -/
theorem endsNumber_append
    {blanks : Bytes}
    (hBlanks : IsBlanks blanks)
    {b : UInt8}
    (hEnd : continuesNumber b = false)
    (rest : Bytes) :
    EndsNumber (blanks ++ b :: rest) := by
  intro first hFirst
  cases blanks with
  | nil =>
      cases hFirst
      exact hEnd
  | cons blank more =>
      have hSame : blank = first := Option.some.inj hFirst
      rw [← hSame]
      apply not_continuesNumber_of_isBlank
      exact hBlanks blank List.mem_cons_self

/- Blanks at the end of a document end a numeral, too. -/
theorem IsBlanks.endsNumber
    {blanks : Bytes}
    (hBlanks : IsBlanks blanks) :
    EndsNumber blanks := by
  intro first hFirst
  apply not_continuesNumber_of_isBlank
  exact hBlanks first (List.mem_of_mem_head? hFirst)

/- Behind an item follows a comma or the closing bracket. -/
theorem ItemsText.endsNumber
    {items : List Value}
    {more : Bytes}
    (hMore : ItemsText false items more)
    (rest : Bytes) :
    EndsNumber (more ++ Mark.closeArray :: rest) := by
  cases hMore with
  | done hBlanks =>
      exact endsNumber_append hBlanks rfl rest
  | next hBlanks hGap hItem hMore =>
      rw [List.append_assoc]
      exact endsNumber_append hBlanks rfl _

theorem MemberHead.endsNumber
    {key : String}
    {head : Bytes}
    (hHead : MemberHead false key head)
    (rest : Bytes) :
    EndsNumber (head ++ rest) := by
  cases hHead with
  | mk hBlanks hGap hKey hSpace hRoom =>
      rw [List.append_assoc]
      exact endsNumber_append hBlanks rfl _

theorem MembersText.endsNumber
    {members : List (String × Value)}
    {more : Bytes}
    (hMore : MembersText false members more)
    (rest : Bytes) :
    EndsNumber (more ++ Mark.closeObject :: rest) := by
  cases hMore with
  | done hBlanks =>
      exact endsNumber_append hBlanks rfl rest
  | next hHead hValue hMore =>
      rw [List.append_assoc]
      exact hHead.endsNumber _

theorem not_isBlank_of_startsNumber
    {b : UInt8}
    (hStarts : startsNumber b = true) :
    isBlank b = false ∧ b ≠ Mark.closeArray := by
  constructor
  · cases hBlank : isBlank b with
    | false => rfl
    | true =>
        simp only [isBlank, Bool.or_eq_true, beq_iff_eq]
          at hBlank
        rcases hBlank with ((rfl | rfl) | rfl) | rfl <;>
          cases hStarts
  · rintro rfl
    cases hStarts

theorem Word.byte_cases
    {found : Word}
    {b : UInt8}
    (hWord : Word.ofByte? b = some found) :
    (b = 0x6E ∧ found = .null) ∨
      (b = 0x74 ∧ found = .true) ∨
      (b = 0x66 ∧ found = .false) := by
  unfold Word.ofByte? at hWord
  repeat' split at hWord
  all_goals cases hWord
  all_goals simp [*]

/- A text of a value begins with no blank and no bracket. -/
theorem ValueText.head
    {value : Value}
    {text : Bytes}
    (hText : ValueText value text) :
    ∃ b tail,
      text = b :: tail ∧ isBlank b = false ∧
        b ≠ Mark.closeArray := by
  cases hText with
  | word hWord =>
      refine ⟨_, _, rfl, ?_⟩
      rcases Word.byte_cases hWord with
        ⟨rfl, _⟩ | ⟨rfl, _⟩ | ⟨rfl, _⟩ <;> decide
  | number hNumeral =>
      rcases hNumeral.starts with ⟨b, tail, hSame, hStarts⟩
      exact
        ⟨b, tail, hSame,
          not_isBlank_of_startsNumber hStarts⟩
  | string hBody => exact ⟨_, _, rfl, by decide⟩
  | array hBody => exact ⟨_, _, rfl, by decide⟩
  | object hBody => exact ⟨_, _, rfl, by decide⟩

/- What the kind of a value says about its texts. -/
def HasForm : Value → Bytes → Prop
  | .number number, text => Numeral number text
  | .string content, text =>
      ∃ body,
        text = quoted body ∧
          LiteralText content.toList body
  | .array items, text =>
      ∃ body,
        text = Mark.openArray :: (body ++ [Mark.closeArray]) ∧
          ItemsText true items body
  | .object members, text =>
      ∃ body,
        text =
            Mark.openObject :: (body ++ [Mark.closeObject]) ∧
          MembersText true members body
  | _, _ => True

theorem ValueText.hasForm
    {value : Value}
    {text : Bytes}
    (hText : ValueText value text) :
    HasForm value text := by
  cases hText with
  | @word found => cases found <;> trivial
  | number hNumeral => exact hNumeral
  | string hBody => exact ⟨_, rfl, hBody⟩
  | array hBody => exact ⟨_, rfl, hBody⟩
  | object hBody => exact ⟨_, rfl, hBody⟩

theorem ValueText.length_pos
    {value : Value}
    {text : Bytes}
    (hText : ValueText value text) :
    0 < text.length := by
  rcases hText.head with ⟨b, tail, hSame, _⟩
  rw [hSame]
  exact Nat.succ_pos _

------------------------------------------------------------
-- Items and Members
------------------------------------------------------------

/-
  A reader finds a value in a text, whatever blanks stand
  before it and whatever follows that ends a numeral.
-/
def Reads
    {α : Type}
    (reader : Reader α)
    (value : α)
    (text : Bytes) : Prop :=
  ∀ room rest,
    IsBlanks room →
    EndsNumber rest →
    reader (room ++ (text ++ rest)) = .ok (value, rest)

/- Without blanks in front. -/
theorem Reads.apply
    {α : Type}
    {reader : Reader α}
    {value : α}
    {text : Bytes}
    (hReads : Reads reader value text)
    {rest : Bytes}
    (hEnds : EndsNumber rest) :
    reader (text ++ rest) = .ok (value, rest) :=
  hReads [] rest isBlanks_nil hEnds

/-
  The induction is on the items.  As no item is empty, the
  length of the text bounds their number.
-/
theorem readItems_text
    {α : Type}
    {item : Reader α}
    (make : α → Value)
    {values : List α}
    (hItem :
      ∀ value ∈ values,
        ∀ text,
          ValueText (make value) text →
          Reads item value text)
    {first : Bool}
    {body : Bytes}
    (hBody : ItemsText first (values.map make) body)
    {bound : Nat}
    (hBound : body.length < bound)
    (rest : Bytes) :
    readItems item first bound
        (body ++ Mark.closeArray :: rest) =
      .ok (values, Mark.closeArray :: rest) := by
  induction values generalizing first body bound with
  | nil =>
      cases hBody with
      | done hBlanks =>
          rcases Nat.exists_eq_succ_of_ne_zero
            (Nat.ne_zero_of_lt hBound) with ⟨bound, rfl⟩
          rw [readItems, Reader.bind_apply,
            moreItems_done first hBlanks]
          rfl
  | cons value values ih =>
      rw [List.forall_mem_cons] at hItem
      rcases hItem with ⟨hValue, hValues⟩
      cases hBody with
      | @next _ _ _ blanks gap text more hBlanks hGap hText
          hMore =>
          have hLength := hText.length_pos
          simp only [List.length_append] at hBound
          rcases Nat.exists_eq_succ_of_ne_zero
            (Nat.ne_zero_of_lt hBound) with ⟨bound, rfl⟩
          have hRead :
              item (text ++
                  (more ++ Mark.closeArray :: rest)) =
                .ok (value,
                  more ++ Mark.closeArray :: rest) :=
            (hValue text hText).apply (hMore.endsNumber rest)
          have hFits : more.length < bound := by omega
          have hRest := ih hValues hMore hFits
          rcases hText.head with
            ⟨b, tail, rfl, hBlank, hClose⟩
          have hNext :=
            moreItems_next first hBlanks hGap hBlank hClose
              (tail ++ (more ++ Mark.closeArray :: rest))
          simp only [List.append_assoc, List.cons_append]
            at hNext hRead ⊢
          rw [readItems, Reader.bind_apply, hNext]
          simp only [if_true, Reader.bind_apply, hRead, hRest]
          rfl

theorem MemberHead.length_pos
    {first : Bool}
    {key : String}
    {head : Bytes}
    (hHead : MemberHead first key head) :
    0 < head.length := by
  cases hHead with
  | mk =>
      simp only [quoted, List.length_append, List.length_cons]
      omega

/- The induction is on the members, as it is on the items. -/
theorem readMembers_text
    {item : Reader Value}
    {members : List (String × Value)}
    (hItem :
      ∀ member ∈ members,
        ∀ text,
          ValueText member.2 text →
          Reads item member.2 text)
    {first : Bool}
    {body : Bytes}
    (hBody : MembersText first members body)
    {bound : Nat}
    (hBound : body.length < bound)
    (rest : Bytes) :
    readMembers item first bound
        (body ++ Mark.closeObject :: rest) =
      .ok (members, Mark.closeObject :: rest) := by
  induction members generalizing first body bound with
  | nil =>
      cases hBody with
      | done hBlanks =>
          rcases Nat.exists_eq_succ_of_ne_zero
            (Nat.ne_zero_of_lt hBound) with ⟨bound, rfl⟩
          rw [readMembers, Reader.bind_apply,
            moreMembers_done first hBlanks]
          rfl
  | cons member members ih =>
      rw [List.forall_mem_cons] at hItem
      rcases hItem with ⟨hValue, hValues⟩
      cases hBody with
      | @next _ key value _ head text more hHead hText
          hMore =>
          have hLength := hHead.length_pos
          simp only [List.length_append] at hBound
          rcases Nat.exists_eq_succ_of_ne_zero
            (Nat.ne_zero_of_lt hBound) with ⟨bound, rfl⟩
          rcases hHead.reads
              (text ++ (more ++ Mark.closeObject :: rest))
            with
            ⟨start, named, room, hStart, hKey, hColon,
              hRoom⟩
          have hRead :=
            hValue text hText room _ hRoom
              (hMore.endsNumber rest)
          have hFits : more.length < bound := by omega
          have hRest := ih hValues hMore hFits
          simp only [List.append_assoc]
          rw [readMembers, Reader.bind_apply, hStart]
          simp only [if_true, Reader.bind_apply, hKey, hColon,
            hRead, hRest]
          rfl

------------------------------------------------------------
-- Values
------------------------------------------------------------

theorem word_append
    (letters rest : Bytes) :
    word letters (letters ++ rest) = .ok ((), rest) := by
  induction letters with
  | nil => cases rest <;> rfl
  | cons letter letters ih => simp [word, ih]

/- The number of bytes bounds the items among them. -/
theorem length_lt_append (body rest : Bytes) :
    body.length < (body ++ rest).length + 1 := by
  rw [List.length_append]
  omega

/- The closing bracket is where items or members end. -/
theorem readArray_of_items
    {α : Type}
    {item : Reader α}
    {values : List α}
    {body rest : Bytes}
    (hItems :
      ∀ bound,
        body.length < bound →
        readItems item true bound
            (body ++ Mark.closeArray :: rest) =
          .ok (values, Mark.closeArray :: rest)) :
    readArray item (body ++ Mark.closeArray :: rest) =
      .ok (values, rest) := by
  have hRead :=
    hItems _ (length_lt_append body (Mark.closeArray :: rest))
  have hClose :
      closeArray (Mark.closeArray :: rest) =
        .ok ((), rest) := rfl
  unfold readArray
  simp only [Reader.bind_apply, hRead, hClose]
  rfl

theorem readObject_of_members
    {item : Reader Value}
    {members : List (String × Value)}
    {body rest : Bytes}
    (hMembers :
      ∀ bound,
        body.length < bound →
        readMembers item true bound
            (body ++ Mark.closeObject :: rest) =
          .ok (members, Mark.closeObject :: rest)) :
    readObject item (body ++ Mark.closeObject :: rest) =
      .ok (members, rest) := by
  have hRead :=
    hMembers _
      (length_lt_append body (Mark.closeObject :: rest))
  have hClose :
      closeObject (Mark.closeObject :: rest) =
        .ok ((), rest) := rfl
  unfold readObject
  simp only [Reader.bind_apply, hRead, hClose]
  rfl

/- The values directly inside a value. -/
def Value.children : Value → List Value
  | .array items => items
  | .object members => members.map (·.2)
  | _ => []

theorem Value.depth_le_itemsDepth
    {item : Value}
    {items : List Value}
    (hItem : item ∈ items) :
    item.depth ≤ itemsDepth items := by
  induction items with
  | nil => cases hItem
  | cons first items ih =>
      rw [itemsDepth]
      rcases List.mem_cons.1 hItem with rfl | hItem
      · exact Nat.le_max_left _ _
      · exact Nat.le_trans (ih hItem) (Nat.le_max_right _ _)

theorem Value.depth_le_membersDepth
    {member : String × Value}
    {members : List (String × Value)}
    (hMember : member ∈ members) :
    member.2.depth ≤ membersDepth members := by
  induction members with
  | nil => cases hMember
  | cons first members ih =>
      rcases first with ⟨key, value⟩
      rw [membersDepth]
      rcases List.mem_cons.1 hMember with rfl | hMember
      · exact Nat.le_max_left _ _
      · exact
          Nat.le_trans (ih hMember) (Nat.le_max_right _ _)

/- Below a bracket fewer brackets are open at once. -/
theorem Value.depth_lt_of_mem_children
    {value child : Value}
    (hChild : child ∈ value.children) :
    child.depth < value.depth := by
  cases value with
  | array items =>
      exact Nat.lt_succ_of_le (depth_le_itemsDepth hChild)
  | object members =>
      rcases List.mem_map.1 hChild with ⟨member, hMember, rfl⟩
      exact Nat.lt_succ_of_le (depth_le_membersDepth hMember)
  | _ => cases hChild

theorem readValueWith_quote
    (nested : Option (Reader Value))
    (bytes : Bytes) :
    readValueWith nested (Mark.quote :: bytes) =
      (Value.string <$> readString) bytes := rfl

theorem readValueWith_openArray
    (item : Reader Value)
    (bytes : Bytes) :
    readValueWith (some item) (Mark.openArray :: bytes) =
      (Value.array <$> readArray item) bytes := rfl

theorem readValueWith_openObject
    (item : Reader Value)
    (bytes : Bytes) :
    readValueWith (some item) (Mark.openObject :: bytes) =
      (Value.object <$> readObject item) bytes := rfl

theorem ofByte?_of_startsNumber
    {b : UInt8}
    (hStarts : startsNumber b = true) :
    Word.ofByte? b = none := by
  cases hWord : Word.ofByte? b with
  | none => rfl
  | some found =>
      rcases Word.byte_cases hWord with
        ⟨rfl, _⟩ | ⟨rfl, _⟩ | ⟨rfl, _⟩ <;> cases hStarts

theorem readValueWith_startsNumber
    (nested : Option (Reader Value))
    {b : UInt8}
    (hStarts : startsNumber b = true)
    (bytes : Bytes) :
    readValueWith nested (b :: bytes) =
      (Value.number <$> readNumber) (b :: bytes) := by
  have hBlank := (not_isBlank_of_startsNumber hStarts).1
  rw [readValueWith, skipBlanks_cons hBlank]
  simp only [ofByte?_of_startsNumber hStarts, hStarts,
    if_true]

theorem readValueWith_word
    (nested : Option (Reader Value))
    {found : Word}
    {b : UInt8}
    (hWord : Word.ofByte? b = some found)
    (bytes : Bytes) :
    readValueWith nested (b :: bytes) =
      (do word found.letters
          pure found.value : Reader Value) bytes := by
  rcases Word.byte_cases hWord with
    ⟨rfl, rfl⟩ | ⟨rfl, rfl⟩ | ⟨rfl, rfl⟩ <;> rfl

/-
  One level: a value with brackets is read if its children
  are read by the reader for the next level.
-/
theorem readValueWith_text
    {nested : Option (Reader Value)}
    {value : Value}
    {text : Bytes}
    (hText : ValueText value text)
    (hNested :
      0 < value.depth →
        ∃ item,
          nested = some item ∧
            ∀ child ∈ value.children,
              ∀ part,
                ValueText child part →
                Reads item child part) :
    Reads (readValueWith nested) value text := by
  intro room rest hRoom hEnds
  rw [← readValueWith_skipBlanks, skipBlanks_append hRoom,
    readValueWith_skipBlanks]
  cases hText with
  | word hWord =>
      rw [List.cons_append, readValueWith_word _ hWord,
        Reader.bind_apply, word_append]
      rfl
  | number hNumeral =>
      rcases hNumeral.starts with ⟨b, tail, rfl, hStarts⟩
      have hReads := hNumeral.reads rest hEnds
      rw [List.cons_append] at hReads ⊢
      rw [readValueWith_startsNumber _ hStarts,
        Reader.map_apply, hReads]
  | string hBody =>
      rw [quoted, List.cons_append, List.append_assoc,
        List.singleton_append, readValueWith_quote,
        Reader.map_apply, readString_literalText hBody]
  | @array items body hBody =>
      rcases hNested (Nat.succ_pos _) with
        ⟨item, rfl, hItems⟩
      have hRead :
          readArray item (body ++ Mark.closeArray :: rest) =
            .ok (items, rest) := by
        apply readArray_of_items
        intro bound hBound
        apply readItems_text id hItems _ hBound
        rwa [List.map_id]
      rw [List.cons_append, List.append_assoc,
        List.singleton_append, readValueWith_openArray,
        Reader.map_apply, hRead]
  | @object members body hBody =>
      rcases hNested (Nat.succ_pos _) with
        ⟨item, rfl, hMembers⟩
      have hRead :
          readObject item
              (body ++ Mark.closeObject :: rest) =
            .ok (members, rest) := by
        apply readObject_of_members
        intro bound hBound
        apply readMembers_text _ hBody hBound
        intro member hMember
        exact
          hMembers member.2 (List.mem_map_of_mem hMember)
      rw [List.cons_append, List.append_assoc,
        List.singleton_append, readValueWith_openObject,
        Reader.map_apply, hRead]

/- Every text of a value that is not too deep is read. -/
theorem readValue_text
    {depth : Nat}
    {value : Value}
    {text : Bytes}
    (hText : ValueText value text)
    (hDepth : value.depth ≤ depth) :
    Reads (readValue depth) value text := by
  induction depth generalizing value text with
  | zero =>
      apply readValueWith_text hText
      intro hPositive
      omega
  | succ depth ih =>
      apply readValueWith_text hText
      intro hPositive
      refine ⟨readValue depth, rfl, ?_⟩
      intro child hChild part hPart
      have hBelow := Value.depth_lt_of_mem_children hChild
      exact ih hPart (by omega)

/- A document is a text with blanks around it. -/
theorem readDocument_text
    {α : Type}
    {reader : Reader α}
    {value : α}
    {text : Bytes}
    (hReads : Reads reader value text)
    {before after : Bytes}
    (hBefore : IsBlanks before)
    (hAfter : IsBlanks after) :
    readDocument reader (before ++ (text ++ after)) =
      .ok value := by
  have hRead := hReads before after hBefore hAfter.endsNumber
  have hNothing := skipBlanks_append hAfter []
  rw [List.append_nil] at hNothing
  unfold readDocument
  simp only [hRead, hNothing]
  rfl

/- Every text of a document is read as its value. -/
theorem Value.ofBytes_text
    {value : Value}
    {text : Bytes}
    (hText : ValueText value text)
    (hDepth : value.depth ≤ depthLimit)
    {before after : Bytes}
    (hBefore : IsBlanks before)
    (hAfter : IsBlanks after) :
    ofBytes (before ++ (text ++ after)) = .ok value :=
  readDocument_text (readValue_text hText hDepth) hBefore
    hAfter

end Json

end NetPlugin
