import NetPlugin.Proofs.Json.Records
import NetPlugin.Proofs.Json.Skipping

/-
  Records as functions of the members of an object.

  A document that can be read as an object is read as a
  record by gathering its members in order: one whose key
  has no field is skipped, and a field that was read before
  is refused.

  Main declarations:
    * `Json.Finds` and `Json.Follows`
    * `Json.readOptionalText_follows`
    * `Json.gather`
    * `Json.Record.readDocument_finds`
    * `Json.gather_of_new`
-/

------------------------------------------------------------
-- Readers That Follow Values
------------------------------------------------------------

namespace NetPlugin

namespace Json

section Finds

variable {α β : Type}

/- A reader finds a value, or it fails if there is none. -/
def Finds
    (reader : Reader α)
    (bytes rest : Bytes) : Option α → Prop
  | some value => reader bytes = .ok (value, rest)
  | none => ∃ failure, reader bytes = .error failure

/- Behind a reader that succeeds, the next one decides. -/
theorem finds_bind_iff
    {first : Reader α}
    {bytes between : Bytes}
    {value : α}
    (hFirst : first bytes = .ok (value, between))
    (next : α → Reader β)
    (rest : Bytes)
    (result : Option β) :
    Finds (first >>= next) bytes rest result ↔
      Finds (next value) between rest result := by
  have hSame :
      (first >>= next) bytes = next value between := by
    rw [Reader.bind_apply, hFirst]
  cases result with
  | none =>
      unfold Finds
      rw [hSame]
  | some result =>
      unfold Finds
      rw [hSame]

theorem Finds.bind
    {first : Reader α}
    {next : α → Reader β}
    {bytes between rest : Bytes}
    {found : Option α}
    {last : α → Option β}
    (hFirst : Finds first bytes between found)
    (hNext :
      ∀ value,
        found = some value →
        Finds (next value) between rest (last value)) :
    Finds (first >>= next) bytes rest (found.bind last) := by
  cases found with
  | none =>
      rcases hFirst with ⟨failure, hFailure⟩
      refine ⟨failure, ?_⟩
      rw [Reader.bind_apply, hFailure]
  | some value =>
      have hLast := hNext value rfl
      unfold Finds at hFirst hLast ⊢
      simp only [Option.bind_some, Reader.bind_apply, hFirst]
      exact hLast

/-
  What a reader finds is made of the value that stands
  there.
-/
def Follows
    (reader : Reader α)
    (make : Value → Option α) : Prop :=
  ∀ depth bytes value rest,
    readValue depth bytes = .ok (value, rest) →
    Finds reader bytes rest (make value)

theorem Follows.bind_pure
    {reader : Reader α}
    {make : Value → Option α}
    (hReader : Follows reader make)
    (store : α → β) :
    Follows
      (do
        let found ← reader
        pure (store found))
      (fun value => (make value).map store) := by
  intro depth bytes value rest hRead
  have hFound := hReader depth bytes value rest hRead
  simp only
  cases hMake : make value with
  | none =>
      rw [hMake] at hFound
      rcases hFound with ⟨failure, hFailure⟩
      refine ⟨failure, ?_⟩
      rw [Reader.bind_apply, hFailure]
  | some found =>
      rw [hMake] at hFound
      unfold Finds at hFound
      simp only [Option.map_some, Finds, Reader.bind_apply,
        hFound]
      rfl

/- Every level is read in the same way. -/
theorem readValue_course
    {depth : Nat}
    {bytes rest : Bytes}
    {value : Value}
    (hRead : readValue depth bytes = .ok (value, rest)) :
    ∃ nested, ValueCourse nested bytes value rest := by
  cases depth with
  | zero => exact ⟨_, readValueWith_course hRead⟩
  | succ depth => exact ⟨_, readValueWith_course hRead⟩

end Finds

/- The text of a value that is a text or null. -/
def Value.optionalText? : Value → Option (Option String)
  | .null => some none
  | .string content => some (some content)
  | _ => none

/- What begins with no quote is not a text. -/
theorem readText_error
    {bytes tail : Bytes}
    {b : UInt8}
    (hBytes : skipBlanks bytes = b :: tail)
    (hQuote : b ≠ Mark.quote) :
    ∃ failure, readText bytes = .error failure := by
  unfold readText
  simp only [hBytes, if_neg hQuote]
  exact ⟨_, rfl⟩

theorem readOptionalText_of_not_null
    {bytes tail : Bytes}
    {b : UInt8}
    (hBytes : skipBlanks bytes = b :: tail)
    (hNull : Word.ofByte? b ≠ some .null) :
    readOptionalText bytes = (some <$> readText) (b :: tail)
    := by
  unfold readOptionalText
  simp only [hBytes, if_neg hNull]

/- Anything but a text or null is refused. -/
theorem readOptionalText_error
    {bytes tail : Bytes}
    {b : UInt8}
    (hBytes : skipBlanks bytes = b :: tail)
    (hNull : Word.ofByte? b ≠ some .null)
    (hQuote : b ≠ Mark.quote) :
    ∃ failure, readOptionalText bytes = .error failure := by
  have hSame : skipBlanks (b :: tail) = b :: tail := by
    rw [← hBytes, skipBlanks_skipBlanks]
  rcases readText_error hSame hQuote with
    ⟨failure, hFailure⟩
  refine ⟨failure, ?_⟩
  rw [readOptionalText_of_not_null hBytes hNull,
    Reader.map_apply, hFailure]

/- An optional text is the text that a value is, or null. -/
theorem readOptionalText_follows :
    Follows readOptionalText Value.optionalText? := by
  intro depth bytes value rest hRead
  rcases readValue_course hRead with ⟨nested, hCourse⟩
  cases hCourse with
  | @word b tail rest found hBytes hWord hRead =>
      by_cases hNull : found = .null
      · subst hNull
        unfold readOptionalText
        simp only [hBytes, if_pos hWord, Reader.bind_apply,
          hRead, Finds]
        rfl
      · have hQuote : b ≠ Mark.quote := by
          rintro rfl
          cases hWord
        have hNone :
            Value.optionalText? found.value = none := by
          cases found <;> first | rfl | exact absurd rfl hNull
        have hOther : Word.ofByte? b ≠ some .null := by
          rw [hWord]
          exact fun hSame => hNull (Option.some.inj hSame)
        rw [hNone]
        exact readOptionalText_error hBytes hOther hQuote
  | @number b tail rest number hBytes hStarts hRead =>
      have hOther : Word.ofByte? b ≠ some .null := by
        rw [ofByte?_of_startsNumber hStarts]
        exact Option.some_ne_none _ |>.symm
      have hQuote : b ≠ Mark.quote := by
        rintro rfl
        cases hStarts
      exact readOptionalText_error hBytes hOther hQuote
  | @string tail rest content hBytes hRead =>
      have hText :
          readText (Mark.quote :: tail) =
            .ok (content, rest) := hRead
      show readOptionalText bytes = .ok (some content, rest)
      rw [readOptionalText_of_not_null hBytes (by decide),
        Reader.map_apply, hText]
  | array hBytes hNested hRead =>
      exact
        readOptionalText_error hBytes (by decide) (by decide)
  | object hBytes hNested hRead =>
      exact
        readOptionalText_error hBytes (by decide) (by decide)

------------------------------------------------------------
-- Gathering Members
------------------------------------------------------------

section Gather

variable {σ α : Type}
variable (stores : Field σ → σ → Value → Option σ)

/-
  What is known behind some members, if none of them is
  refused, given what each field makes of a value.
-/
def gather
    (fields : List (Field σ)) : σ → Members → Option σ
  | known, [] => some known
  | known, (key, value) :: rest =>
      match fields.find? (·.name = key) with
      | none => gather fields known rest
      | some field =>
          if field.seen known then none
          else
            (stores field known value).bind fun next =>
              gather fields next rest

variable {stores} {fields : List (Field σ)}

/-
  The induction is on the bound, which is the one with which
  the members were read as values.
-/
theorem readFields_finds
    (hStores :
      ∀ field ∈ fields,
        ∀ known,
          Follows (field.read known) (stores field known))
    {depth : Nat}
    {first : Bool}
    {bound : Nat}
    {known : σ}
    {bytes after : Bytes}
    {members : Members}
    (hRead :
      readMembers (readValue depth) first bound bytes =
        .ok (members, after)) :
    Finds (readFields fields first bound known) bytes after
      (gather stores fields known members) := by
  induction bound generalizing first known bytes members with
  | zero => cases hRead
  | succ bound ih =>
      rcases Reader.exists_of_bind hRead with
        ⟨more, start, hMore, hRead⟩
      rw [readFields, finds_bind_iff hMore]
      cases more with
      | false =>
          cases hRead
          rfl
      | true =>
          rcases Reader.exists_of_bind hRead with
            ⟨key, named, hKey, hRead⟩
          rcases Reader.exists_of_bind hRead with
            ⟨_, valued, hColon, hRead⟩
          rcases Reader.exists_of_bind hRead with
            ⟨value, between, hValue, hRead⟩
          rcases Reader.exists_of_bind hRead with
            ⟨more, last, hMembers, hRead⟩
          cases hRead
          rw [if_pos rfl, finds_bind_iff hKey, gather]
          cases hField : fields.find? (·.name = key) with
          | none =>
              -- No field has the key: its value is skipped.
              have hSkip := skipValue_of_readValue hValue
              simp only
              rw [finds_bind_iff hColon, finds_bind_iff hSkip]
              exact ih hMembers
          | some field =>
              simp only
              split
              · exact ⟨_, rfl⟩
              · rw [finds_bind_iff hColon]
                have hMem := List.mem_of_find?_eq_some hField
                apply
                  (hStores field hMem known _ _ _ _
                    hValue).bind
                intro next _
                exact ih hMembers

------------------------------------------------------------
-- Documents
------------------------------------------------------------

/- The value of a record with the members of an object. -/
def Record.ofMembers
    (record : Record σ α)
    (stores : Field σ → σ → Value → Option σ)
    (members : Members) : Option α :=
  (gather stores record.fields record.start members).bind
    fun known => (record.finish known).toOption

/- An object is read behind its bracket. -/
theorem exists_members_of_readValue
    {depth : Nat}
    {bytes rest : Bytes}
    {members : Members}
    (hRead :
      readValue depth bytes = .ok (.object members, rest)) :
    ∃ below tail after,
      skipBlanks bytes = Mark.openObject :: tail ∧
        readMembers (readValue below) true (tail.length + 1)
            tail =
          .ok (members, after) ∧
        closeObject after = .ok ((), rest) := by
  generalize hValue : Value.object members = value at hRead
  cases depth with
  | zero =>
      cases readValueWith_course hRead with
      | @word _ _ _ found => cases found <;> cases hValue
      | number => cases hValue
      | string => cases hValue
      | array => cases hValue
      | object _ hNested => cases hNested
  | succ depth =>
      cases readValueWith_course hRead with
      | @word _ _ _ found => cases found <;> cases hValue
      | number => cases hValue
      | string => cases hValue
      | array => cases hValue
      | @object tail _ _ _ hBytes hNested hObject =>
          cases hValue
          cases hNested
          rcases Reader.exists_of_bind hObject with
            ⟨_, after, hMembers, hObject⟩
          rcases Reader.exists_of_bind hObject with
            ⟨_, last, hClose, hObject⟩
          cases hObject
          exact
            ⟨depth, tail, after, hBytes, hMembers, hClose⟩

/- A record depends on the members of an object only. -/
theorem Record.read_finds
    {record : Record σ α}
    (hStores :
      ∀ field ∈ record.fields,
        ∀ known,
          Follows (field.read known) (stores field known))
    {depth : Nat}
    {bytes rest : Bytes}
    {members : Members}
    (hRead :
      readValue depth bytes = .ok (.object members, rest)) :
    Finds record.read bytes rest
      (record.ofMembers stores members) := by
  rcases exists_members_of_readValue hRead with
    ⟨below, tail, after, hBytes, hMembers, hClose⟩
  have hSame :
      record.read bytes =
        record.read (Mark.openObject :: tail) := by
    rw [← hBytes, record.read_skipBlanks]
  have hFields :
      Finds
        (readFields record.fields true (tail.length + 1)
          record.start)
        tail after
        (gather stores record.fields record.start members) :=
    readFields_finds hStores hMembers
  unfold Record.ofMembers
  cases hGather :
      gather stores record.fields record.start members with
  | none =>
      rw [hGather] at hFields
      rcases hFields with ⟨failure, hFailure⟩
      have hError := Record.read_eq_error_of_fields hFailure
      exact ⟨_, hSame.trans hError⟩
  | some final =>
      rw [hGather] at hFields
      rw [Option.bind_some]
      cases hFinish : record.finish final with
      | error name =>
          have hError :=
            Record.read_eq_error_of_finish hFields hFinish
          exact ⟨_, hSame.trans hError⟩
      | ok value =>
          have hValue :=
            Record.read_eq_ok hFields hFinish hClose
          exact hSame.trans hValue

/- What a document makes of a record. -/
theorem Record.readDocument_finds
    {record : Record σ α}
    (hStores :
      ∀ field ∈ record.fields,
        ∀ known,
          Follows (field.read known) (stores field known))
    {bytes : Bytes}
    {members : Members}
    (hValue : Value.ofBytes bytes = .ok (.object members)) :
    match record.ofMembers stores members with
    | some value =>
        readDocument record.read bytes = .ok value
    | none =>
        ∃ failure,
          readDocument record.read bytes = .error failure := by
  unfold Value.ofBytes readDocument at hValue
  cases hRead : readValue depthLimit bytes with
  | error failure =>
      rw [hRead] at hValue
      cases hValue
  | ok found =>
      rcases found with ⟨value, rest⟩
      rw [hRead] at hValue
      simp only at hValue
      cases hRest : skipBlanks rest with
      | cons b after =>
          rw [hRest] at hValue
          cases hValue
      | nil =>
          rw [hRest] at hValue
          cases hValue
          have hFinds := Record.read_finds hStores hRead
          cases hMake : record.ofMembers stores members with
          | none =>
              rw [hMake] at hFinds
              rcases hFinds with ⟨failure, hFailure⟩
              simp only [readDocument, hFailure]
              exact ⟨_, rfl⟩
          | some value =>
              rw [hMake] at hFinds
              unfold Finds at hFinds
              simp only [readDocument, hFinds, hRest]

end Gather

------------------------------------------------------------
-- Records with One Field
------------------------------------------------------------

/- The values of all members with a key, in order. -/
def Members.valuesOf
    (members : Members)
    (key : String) : List Value :=
  (members.filter fun member => member.1 = key).map Prod.snd

theorem Members.valuesOf_cons_self
    (key : String)
    (value : Value)
    (members : Members) :
    Members.valuesOf ((key, value) :: members) key =
      value :: members.valuesOf key := by
  simp [valuesOf]

theorem Members.valuesOf_cons_of_ne
    {key other : String}
    (hOther : other ≠ key)
    (value : Value)
    (members : Members) :
    Members.valuesOf ((other, value) :: members) key =
      members.valuesOf key := by
  simp [valuesOf, hOther]

section OneField

variable {σ : Type} {field : Field σ}
variable {stores : Field σ → σ → Value → Option σ}

theorem find?_singleton_of_ne
    {key : String}
    (hKey : field.name ≠ key) :
    [field].find? (·.name = key) = none := by
  simp [hKey]

theorem find?_singleton_self :
    [field].find? (·.name = field.name) = some field := by
  simp

/- Behind the one field, no other member may have its key. -/
theorem gather_of_seen
    {known : σ}
    (hSeen : field.seen known = true)
    (members : Members) :
    gather stores [field] known members =
      if members.valuesOf field.name = [] then some known
      else none := by
  induction members with
  | nil => rfl
  | cons member members ih =>
      rcases member with ⟨key, value⟩
      unfold gather
      by_cases hKey : field.name = key
      · subst hKey
        rw [find?_singleton_self,
          Members.valuesOf_cons_self]
        simp [hSeen]
      · rw [find?_singleton_of_ne hKey,
          Members.valuesOf_cons_of_ne (Ne.symm hKey)]
        exact ih

/- The one field is filled once, or not at all. -/
theorem gather_of_new
    {known : σ}
    (hNew : field.seen known = false)
    (hStored :
      ∀ value next,
        stores field known value = some next →
        field.seen next = true)
    (members : Members) :
    gather stores [field] known members =
      match members.valuesOf field.name with
      | [] => some known
      | [value] => stores field known value
      | _ => none := by
  induction members with
  | nil => rfl
  | cons member members ih =>
      rcases member with ⟨key, value⟩
      unfold gather
      by_cases hKey : field.name = key
      · subst hKey
        rw [find?_singleton_self,
          Members.valuesOf_cons_self]
        simp only [hNew, Bool.false_eq_true, if_false]
        cases hStore : stores field known value with
        | none =>
            cases Members.valuesOf members field.name <;>
              simp [hStore]
        | some next =>
            have hSeen := hStored value next hStore
            rw [Option.bind_some, gather_of_seen hSeen]
            cases Members.valuesOf members field.name <;>
              simp [hStore]
      · rw [find?_singleton_of_ne hKey,
          Members.valuesOf_cons_of_ne (Ne.symm hKey)]
        exact ih

end OneField

end Json

end NetPlugin
