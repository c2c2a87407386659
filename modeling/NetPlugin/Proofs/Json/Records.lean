import NetPlugin.Json.Record
import NetPlugin.Proofs.Json.Reading

/-
  Reading values of a known type from their texts.

  A record is read by storing one member after the other.
  Its reader is followed on texts in which every member has
  a field, and each field has at most one member.

  Main declarations:
    * `Json.Refuses`
    * `Json.readText_text` and `Json.readList_text`
    * `Json.readWord32_numeral`
    * `Json.readWord32_decimal_of_le`
    * `Json.Gathers` and `Json.Refused`
    * `Json.Record.read_gathers`
    * `Json.Record.read_refused`
-/

------------------------------------------------------------
-- Scalars and Lists
------------------------------------------------------------

namespace NetPlugin

namespace Json

/- A reader that finds no value in a text. -/
def Refuses
    {α : Type}
    (reader : Reader α)
    (text : Bytes) : Prop :=
  ∀ room rest,
    IsBlanks room →
    EndsNumber rest →
    ∃ failure,
      reader (room ++ (text ++ rest)) = .error failure

/- A value that is stored after it was read. -/
theorem Reads.bind_pure
    {α β : Type}
    {reader : Reader α}
    {value : α}
    {text : Bytes}
    (hReads : Reads reader value text)
    (store : α → β) :
    Reads
      (do
        let found ← reader
        pure (store found))
      (store value) text := by
  intro room rest hRoom hEnds
  rw [Reader.bind_apply, hReads room rest hRoom hEnds]
  rfl

theorem Refuses.bind
    {α β : Type}
    {reader : Reader α}
    {text : Bytes}
    (hRefuses : Refuses reader text)
    (next : α → Reader β) :
    Refuses (reader >>= next) text := by
  intro room rest hRoom hEnds
  rcases hRefuses room rest hRoom hEnds with
    ⟨failure, hFailure⟩
  rw [Reader.bind_apply, hFailure]
  exact ⟨failure, rfl⟩

/- A text is read from each of its literals. -/
theorem readText_quoted
    {value : String}
    {body : Bytes}
    (hBody : LiteralText value.toList body) :
    Reads readText value (quoted body) := by
  intro room rest hRoom hEnds
  unfold readText
  rw [skipBlanks_append hRoom, quoted, List.cons_append,
    skipBlanks_cons rfl, List.append_assoc,
    List.singleton_append]
  simp only [if_true]
  exact readString_literalText hBody rest

theorem readText_text
    {value : String}
    {text : Bytes}
    (hText : ValueText (.string value) text) :
    Reads readText value text := by
  rcases hText.hasForm with ⟨body, rfl, hBody⟩
  exact readText_quoted hBody

theorem readWord32_append
    {room : Bytes}
    (hRoom : IsBlanks room)
    (bytes : Bytes) :
    readWord32 (room ++ bytes) = readWord32 bytes := by
  unfold readWord32
  rw [skipBlanks_append hRoom]

/- An integer is read if it has 32 bits, without a sign. -/
theorem readWord32_of_integer
    {b : UInt8}
    (hStarts : startsNumber b = true)
    {bytes rest : Bytes}
    {value : Int}
    (hNumber :
      readNumber (b :: bytes) = .ok (.integer value, rest))
    (hRange : 0 ≤ value ∧ value < word32Limit) :
    readWord32 (b :: bytes) = .ok (value.toNat, rest) := by
  have hBlank := (not_isBlank_of_startsNumber hStarts).1
  unfold readWord32
  rw [skipBlanks_cons hBlank]
  simp only [hStarts, if_true, hNumber, if_pos hRange]

/- Nothing else is. -/
theorem readWord32_of_not_integer
    {b : UInt8}
    (hStarts : startsNumber b = true)
    {bytes : Bytes}
    (hNot :
      ∀ value rest,
        readNumber (b :: bytes) = .ok (.integer value, rest) →
        ¬ (0 ≤ value ∧ value < word32Limit)) :
    ∃ failure, readWord32 (b :: bytes) = .error failure := by
  have hBlank := (not_isBlank_of_startsNumber hStarts).1
  unfold readWord32
  rw [skipBlanks_cons hBlank]
  simp only [hStarts, if_true]
  cases hNumber : readNumber (b :: bytes) with
  | error failure => exact ⟨failure, rfl⟩
  | ok found =>
      rcases found with ⟨number, rest⟩
      cases number with
      | integer value =>
          simp only [if_neg (hNot value rest hNumber)]
          exact ⟨_, rfl⟩
      | float negative magnitude => exact ⟨_, rfl⟩

/- A number of 32 bits is read from its numerals. -/
theorem readWord32_numeral
    {n : Nat}
    (hFits : (n : Int) < word32Limit)
    {text : Bytes}
    (hNumeral : Numeral (.integer n) text) :
    Reads readWord32 n text := by
  intro room rest hRoom hEnds
  rcases hNumeral.starts with ⟨b, tail, rfl, hStarts⟩
  have hNumber := hNumeral.reads rest hEnds
  rw [List.cons_append] at hNumber ⊢
  rw [readWord32_append hRoom,
    readWord32_of_integer hStarts hNumber
      ⟨Int.natCast_nonneg n, hFits⟩,
    Int.toNat_natCast]

/-
  No greater number is read from its digits, though some of
  them are read as an integer, some as another number, and
  some not at all.
-/
theorem readWord32_decimal_of_le
    {n : Nat}
    (hGreat : word32Limit ≤ n) :
    Refuses readWord32 (decimal n) := by
  intro room rest hRoom hEnds
  have hNot :
      ∀ value after,
        readNumber (decimal n ++ rest) =
          .ok (.integer value, after) →
        ¬ (0 ≤ value ∧ value < word32Limit) := by
    intro value after hNumber hRange
    by_cases hWord : n ≤ wordLimit
    · rw [(numeral_decimal hWord).reads rest hEnds] at hNumber
      cases hNumber
      omega
    · exact
        readNumber_decimal_ne_integer (by omega) hEnds value
          after hNumber
  rcases decimal_cons n with ⟨b, tail, hDecimal, hDigit⟩
  have hStarts : startsNumber b = true := by
    simp [startsNumber, hDigit]
  rw [hDecimal, List.cons_append] at hNot ⊢
  rw [readWord32_append hRoom]
  exact readWord32_of_not_integer hStarts hNot

/- A list is read if its items are. -/
theorem readList_text
    {α : Type}
    {item : Reader α}
    (make : α → Value)
    {values : List α}
    (hItem :
      ∀ value ∈ values,
        ∀ text,
          ValueText (make value) text →
          Reads item value text)
    {text : Bytes}
    (hText : ValueText (.array (values.map make)) text) :
    Reads (readList item) values text := by
  intro room rest hRoom hEnds
  rcases hText.hasForm with ⟨body, rfl, hBody⟩
  have hRead :
      readArray item (body ++ Mark.closeArray :: rest) =
        .ok (values, rest) := by
    apply readArray_of_items
    intro bound hBound
    exact readItems_text make hItem hBody hBound rest
  unfold readList
  rw [skipBlanks_append hRoom, List.cons_append,
    skipBlanks_cons rfl, List.append_assoc,
    List.singleton_append]
  simp only [if_true, hRead]

------------------------------------------------------------
-- Fields
------------------------------------------------------------

section Fields

variable {σ : Type}
variable {fields : List (Field σ)}

/-
  What the members in a text store: each of them belongs to
  a field that was not read before.
-/
inductive Gathers
    (fields : List (Field σ)) :
    Bool → σ → Bytes → σ → Prop
  | done
      {first : Bool}
      {known : σ}
      {blanks : Bytes}
      (hBlanks : IsBlanks blanks) :
      Gathers fields first known blanks known
  | next
      {first : Bool}
      {known stored final : σ}
      {key : String}
      {field : Field σ}
      {head text more : Bytes}
      (hHead : MemberHead first key head)
      (hField : fields.find? (·.name = key) = some field)
      (hNew : field.seen known = false)
      (hReads : Reads (field.read known) stored text)
      (hMore : Gathers fields false stored more final) :
      Gathers fields first known
        (head ++ (text ++ more)) final

/- A field stores what another reader finds. -/
theorem Gathers.store
    {β : Type}
    {first : Bool}
    {known final : σ}
    {key : String}
    {field : Field σ}
    {head text more : Bytes}
    (hHead : MemberHead first key head)
    (hField : fields.find? (·.name = key) = some field)
    (hNew : field.seen known = false)
    {value : β}
    {reader : Reader β}
    (hReads : Reads reader value text)
    {store : β → σ}
    (hStores :
      field.read known =
        (do
          let found ← reader
          pure (store found)))
    (hMore :
      Gathers fields false (store value) more final) :
    Gathers fields first known (head ++ (text ++ more))
      final := by
  apply Gathers.next hHead hField hNew _ hMore
  rw [hStores]
  exact hReads.bind_pure store

theorem Gathers.endsNumber
    {known final : σ}
    {more : Bytes}
    (hMore : Gathers fields false known more final)
    (rest : Bytes) :
    EndsNumber (more ++ Mark.closeObject :: rest) := by
  cases hMore with
  | done hBlanks => exact endsNumber_append hBlanks rfl rest
  | next hHead => 
      rw [List.append_assoc]
      exact hHead.endsNumber _

/- A member is read behind its key and the colon. -/
theorem readFields_head
    {first : Bool}
    {key : String}
    {head : Bytes}
    (hHead : MemberHead first key head)
    {field : Field σ}
    (hField : fields.find? (·.name = key) = some field)
    {known : σ}
    (hNew : field.seen known = false)
    (bound : Nat)
    (rest : Bytes) :
    ∃ room,
      IsBlanks room ∧
        readFields fields first (bound + 1) known
            (head ++ rest) =
          (do
            let next ← field.read known
            readFields fields false bound next : Reader σ)
            (room ++ rest) := by
  rcases hHead.reads rest with
    ⟨start, named, room, hStart, hKey, hColon, hRoom⟩
  refine ⟨room, hRoom, ?_⟩
  rw [readFields, Reader.bind_apply, hStart]
  simp only [if_true]
  rw [Reader.bind_apply, hKey]
  simp only [hField, hNew, Bool.false_eq_true, if_false]
  rw [Reader.bind_apply, hColon]

/- The induction is on the members of the text. -/
theorem readFields_gathers
    {first : Bool}
    {known final : σ}
    {body : Bytes}
    (hGathers : Gathers fields first known body final)
    {bound : Nat}
    (hBound : body.length < bound)
    (rest : Bytes) :
    readFields fields first bound known
        (body ++ Mark.closeObject :: rest) =
      .ok (final, Mark.closeObject :: rest) := by
  induction hGathers generalizing bound with
  | @done first known blanks hBlanks =>
      rcases Nat.exists_eq_succ_of_ne_zero
        (Nat.ne_zero_of_lt hBound) with ⟨bound, rfl⟩
      rw [readFields, Reader.bind_apply,
        moreMembers_done first hBlanks]
      rfl
  | @next first known stored final key field head text more
      hHead hField hNew hReads hMore ih =>
      have hLength := hHead.length_pos
      simp only [List.length_append] at hBound
      rcases Nat.exists_eq_succ_of_ne_zero
        (Nat.ne_zero_of_lt hBound) with ⟨bound, rfl⟩
      have hFits : more.length < bound := by omega
      simp only [List.append_assoc]
      rcases readFields_head hHead hField hNew bound
          (text ++ (more ++ Mark.closeObject :: rest)) with
        ⟨room, hRoom, hSame⟩
      rw [hSame, Reader.bind_apply,
        hReads room _ hRoom (hMore.endsNumber rest)]
      exact ih hFits

/-
  A text in which some member is refused, behind members
  that are stored.
-/
inductive Refused
    (fields : List (Field σ)) : Bool → σ → Bytes → Prop
  | here
      {first : Bool}
      {known : σ}
      {key : String}
      {field : Field σ}
      {head text more : Bytes}
      (hHead : MemberHead first key head)
      (hField : fields.find? (·.name = key) = some field)
      (hNew : field.seen known = false)
      (hRefuses : Refuses (field.read known) text)
      (hEnds :
        ∀ rest, EndsNumber (more ++ Mark.closeObject :: rest)) :
      Refused fields first known (head ++ (text ++ more))
  | later
      {first : Bool}
      {known stored : σ}
      {key : String}
      {field : Field σ}
      {head text more : Bytes}
      (hHead : MemberHead first key head)
      (hField : fields.find? (·.name = key) = some field)
      (hNew : field.seen known = false)
      (hReads : Reads (field.read known) stored text)
      (hMore : Refused fields false stored more) :
      Refused fields first known (head ++ (text ++ more))

theorem Refused.endsNumber
    {known : σ}
    {more : Bytes}
    (hMore : Refused fields false known more)
    (rest : Bytes) :
    EndsNumber (more ++ Mark.closeObject :: rest) := by
  cases hMore with
  | here hHead =>
      rw [List.append_assoc]
      exact hHead.endsNumber _
  | later hHead =>
      rw [List.append_assoc]
      exact hHead.endsNumber _

theorem readFields_refused
    {first : Bool}
    {known : σ}
    {body : Bytes}
    (hRefused : Refused fields first known body)
    {bound : Nat}
    (hBound : body.length < bound)
    (rest : Bytes) :
    ∃ failure,
      readFields fields first bound known
          (body ++ Mark.closeObject :: rest) =
        .error failure := by
  induction hRefused generalizing bound with
  | @here first known key field head text more hHead hField
      hNew hRefuses hEnds =>
      rcases Nat.exists_eq_succ_of_ne_zero
        (Nat.ne_zero_of_lt hBound) with ⟨bound, rfl⟩
      simp only [List.append_assoc]
      rcases readFields_head hHead hField hNew bound
          (text ++ (more ++ Mark.closeObject :: rest)) with
        ⟨room, hRoom, hSame⟩
      rw [hSame]
      exact hRefuses.bind _ room _ hRoom (hEnds rest)
  | @later first known stored key field head text more hHead
      hField hNew hReads hMore ih =>
      have hLength := hHead.length_pos
      simp only [List.length_append] at hBound
      rcases Nat.exists_eq_succ_of_ne_zero
        (Nat.ne_zero_of_lt hBound) with ⟨bound, rfl⟩
      have hFits : more.length < bound := by omega
      simp only [List.append_assoc]
      rcases readFields_head hHead hField hNew bound
          (text ++ (more ++ Mark.closeObject :: rest)) with
        ⟨room, hRoom, hSame⟩
      rw [hSame, Reader.bind_apply,
        hReads room _ hRoom (hMore.endsNumber rest)]
      exact ih hFits

------------------------------------------------------------
-- Records
------------------------------------------------------------

variable {α : Type}

theorem Record.read_openObject
    (record : Record σ α)
    (bytes : Bytes) :
    record.read (Mark.openObject :: bytes) =
      closeRecord
        (readFields record.fields true (bytes.length + 1)
          record.start)
        record.finishObject pastObjectEnd closeObject bytes :=
  rfl

theorem Record.read_skipBlanks
    (record : Record σ α)
    (bytes : Bytes) :
    record.read (skipBlanks bytes) = record.read bytes := by
  unfold Record.read
  rw [skipBlanks_skipBlanks]

theorem Record.read_closed
    (record : Record σ α)
    {room : Bytes}
    (hRoom : IsBlanks room)
    (body rest : Bytes) :
    record.read
        (room ++
          (Mark.openObject :: (body ++ [Mark.closeObject]) ++
            rest)) =
      record.read
        (Mark.openObject ::
          (body ++ Mark.closeObject :: rest)) := by
  rw [← record.read_skipBlanks, skipBlanks_append hRoom,
    record.read_skipBlanks, List.cons_append,
    List.append_assoc, List.singleton_append]

section Object

variable {record : Record σ α} {known : σ}
variable {bytes after : Bytes}

/- The fields, the value, and the bracket have to be right. -/
theorem Record.read_eq_ok
    (hFields :
      readFields record.fields true (bytes.length + 1)
          record.start bytes =
        .ok (known, after))
    {value : α}
    (hFinish : record.finish known = .ok value)
    {rest : Bytes}
    (hClose : closeObject after = .ok ((), rest)) :
    record.read (Mark.openObject :: bytes) =
      .ok (value, rest) := by
  have hObject : record.finishObject known = .ok value := by
    unfold finishObject
    rw [hFinish]
    rfl
  rw [record.read_openObject]
  unfold closeRecord
  simp only [hFields, hObject, hClose]

theorem Record.read_eq_error_of_fields
    {failure : Failure}
    (hFields :
      readFields record.fields true (bytes.length + 1)
          record.start bytes =
        .error failure) :
    record.read (Mark.openObject :: bytes) =
      .error (failure.place pastObjectEnd) := by
  rw [record.read_openObject]
  unfold closeRecord
  simp only [hFields]

theorem Record.read_eq_error_of_finish
    (hFields :
      readFields record.fields true (bytes.length + 1)
          record.start bytes =
        .ok (known, after))
    {name : String}
    (hFinish : record.finish known = .error name) :
    record.read (Mark.openObject :: bytes) =
      .error
        ((Failure.unplaced (.missingField name) after).place
          pastObjectEnd) := by
  have hObject :
      record.finishObject known =
        .error (.missingField name) := by
    unfold finishObject
    rw [hFinish]
    rfl
  rw [record.read_openObject]
  unfold closeRecord
  simp only [hFields, hObject]

end Object

/- A record is read from an object with all it needs. -/
theorem Record.read_gathers
    {record : Record σ α}
    {final : σ}
    {body : Bytes}
    (hGathers :
      Gathers record.fields true record.start body final)
    {value : α}
    (hFinish : record.finish final = .ok value) :
    Reads record.read value
      (Mark.openObject :: (body ++ [Mark.closeObject])) := by
  intro room rest hRoom hEnds
  have hFields :=
    readFields_gathers hGathers
      (length_lt_append body (Mark.closeObject :: rest)) rest
  rw [record.read_closed hRoom]
  exact Record.read_eq_ok hFields hFinish rfl

/- It is not read if a member is refused. -/
theorem Record.read_refused
    {record : Record σ α}
    {body : Bytes}
    (hRefused :
      Refused record.fields true record.start body) :
    Refuses record.read
      (Mark.openObject :: (body ++ [Mark.closeObject])) := by
  intro room rest hRoom hEnds
  rcases readFields_refused hRefused
      (length_lt_append body (Mark.closeObject :: rest))
      rest with
    ⟨failure, hFields⟩
  rw [record.read_closed hRoom]
  exact ⟨_, Record.read_eq_error_of_fields hFields⟩

theorem readDocument_refuses
    {reader : Reader α}
    {text : Bytes}
    (hRefuses : Refuses reader text)
    {before after : Bytes}
    (hBefore : IsBlanks before)
    (hAfter : IsBlanks after) :
    ∃ failure,
      readDocument reader (before ++ (text ++ after)) =
        .error failure := by
  rcases hRefuses before after hBefore hAfter.endsNumber with
    ⟨failure, hFailure⟩
  unfold readDocument
  simp only [hFailure]
  exact ⟨_, rfl⟩

end Fields

end Json

end NetPlugin
