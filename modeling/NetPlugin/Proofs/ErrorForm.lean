import NetPlugin.PluginError
import NetPlugin.Proofs.Json.Records
import NetPlugin.Proofs.Json.Writing
import NetPlugin.Proofs.Stream.Sink

/-
  The JSON form of an error reads back.

  Every text of the form is read as the error, whatever its
  layout and however its characters are escaped.  A number
  is read as a code exactly if it is the number of one.

  Main declarations:
    * `PluginError.ofJson_text`
    * `PluginError.NumberedText`
    * `PluginError.ofJson_numberedText`
    * `PluginError.form_reads_back`
-/

------------------------------------------------------------
-- Codes
------------------------------------------------------------

namespace NetPlugin

open Json

namespace ErrorCode

theorem number_lt (code : ErrorCode) : code.number < 1000 := by
  cases code <;> decide

theorem fitsWord_number (code : ErrorCode) :
    FitsWord code.number := by
  have hNumber := code.number_lt
  unfold FitsWord
  omega

/- A code is read from the numerals of its number. -/
theorem read_numeral
    (code : ErrorCode)
    {text : Bytes}
    (hNumeral : Numeral (.integer code.number) text) :
    Reads read code text := by
  have hNumber := code.number_lt
  have hFits : (code.number : Int) < word32Limit := by
    unfold word32Limit
    omega
  intro room rest hRoom hEnds
  have hWord :=
    readWord32_numeral hFits hNumeral room rest hRoom hEnds
  unfold read
  rw [Reader.bind_apply, hWord]
  simp only [ofNumber?_number]
  rfl

/- No code is read from another number. -/
theorem read_decimal_of_none
    {n : Nat}
    (hNone : ofNumber? n = none) :
    Refuses read (decimal n) := by
  by_cases hFits : (n : Int) < word32Limit
  · intro room rest hRoom hEnds
    have hLimit : n ≤ wordLimit := by
      unfold word32Limit at hFits
      unfold wordLimit
      omega
    have hWord :=
      readWord32_numeral hFits (numeral_decimal hLimit) room
        rest hRoom hEnds
    unfold read
    rw [Reader.bind_apply, hWord]
    simp only [hNone]
    exact ⟨_, rfl⟩
  · exact (readWord32_decimal_of_le (by omega)).bind _

end ErrorCode

------------------------------------------------------------
-- Texts of Errors
------------------------------------------------------------

namespace PluginError

/- What is known once the form of an error was read. -/
def gathered (e : PluginError) : Fields where
  code := some e.code
  message := some e.message
  details := if e.details = "" then none else some e.details

theorem finish_gathered (e : PluginError) :
    record.finish e.gathered = .ok e := by
  rcases e with ⟨code, message, details⟩
  unfold gathered
  by_cases hNone : details = ""
  · simp [record, hNone]
  · simp [record, hNone]

/- The members of the form fill the fields of the error. -/
theorem gathers_toJson
    {e : PluginError}
    {text : Bytes}
    (hText : ValueText e.toJson text) :
    ∃ body,
      text =
          Mark.openObject :: (body ++ [Mark.closeObject]) ∧
        Gathers record.fields true {} body e.gathered := by
  rcases e with ⟨code, message, details⟩
  rcases hText.hasForm with ⟨body, rfl, hBody⟩
  refine ⟨body, rfl, ?_⟩
  cases hBody with
  | next hCodeHead hCode hMore =>
  cases hMore with
  | next hMessageHead hMessage hMore =>
      apply Gathers.store hCodeHead rfl rfl
        (ErrorCode.read_numeral code hCode.hasForm) rfl
      apply Gathers.store hMessageHead rfl rfl
        (readText_text hMessage) rfl
      by_cases hNone : details = ""
      · subst hNone
        cases hMore with
        | done hBlanks => exact .done hBlanks
      · simp only [hNone, if_false] at hMore
        cases hMore with
        | next hDetailsHead hDetails hMore =>
        cases hMore with
        | done hBlanks =>
            have hStored :
                gathered ⟨code, message, details⟩ =
                  { code := some code
                    message := some message
                    details := some details } := by
              simp [gathered, hNone]
            rw [hStored]
            exact
              .store hDetailsHead rfl rfl
                (readText_text hDetails) rfl (.done hBlanks)

/- Every text of the form of an error is read as the error. -/
theorem ofJson_text
    {e : PluginError}
    {text : Bytes}
    (hText : ValueText e.toJson text)
    {before after : Bytes}
    (hBefore : IsBlanks before)
    (hAfter : IsBlanks after) :
    ofJson (before ++ (text ++ after)) = .ok e := by
  rcases gathers_toJson hText with ⟨body, rfl, hGathers⟩
  exact
    readDocument_text
      (Record.read_gathers hGathers e.finish_gathered)
      hBefore hAfter

------------------------------------------------------------
-- Printed Errors
------------------------------------------------------------

theorem hasIntegers_toJson (e : PluginError) :
    e.toJson.HasIntegers := by
  have hCode := e.code.fitsWord_number
  unfold toJson
  split <;>
    simp [Value.HasIntegers, Value.membersHaveIntegers, hCode]

theorem depth_toJson (e : PluginError) :
    e.toJson.depth ≤ depthLimit := by
  unfold toJson
  split <;>
    simp [Value.depth, Value.membersDepth, depthLimit]

/- In both layouts the form reads back as the error. -/
theorem ofJson_pieces
    (e : PluginError)
    (layout : Layout)
    {after : Bytes}
    (hAfter : IsBlanks after) :
    ofJson (Utf8.encodeAll (e.toJson.pieces layout) ++ after) =
      .ok e :=
  ofJson_text
    (valueText_pieces layout 0 e.toJson e.hasIntegers_toJson)
    isBlanks_nil hAfter

/- It also reads back as a value, with or without details. -/
theorem ofBytes_pieces
    (e : PluginError)
    (layout : Layout)
    {after : Bytes}
    (hAfter : IsBlanks after) :
    Value.ofBytes
        (Utf8.encodeAll (e.toJson.pieces layout) ++ after) =
      .ok e.toJson :=
  Value.ofBytes_pieces layout e.hasIntegers_toJson
    e.depth_toJson hAfter

------------------------------------------------------------
-- Numbers of Codes
------------------------------------------------------------

/-
  The texts of an object with a number as its code and a
  message, in either order.
-/
inductive NumberedText
    (n : Nat)
    (message : String) : Bytes → Prop
  | codeFirst
      {before codeHead messageHead body blanks after : Bytes}
      (hBefore : IsBlanks before)
      (hCode : MemberHead true codeKey codeHead)
      (hMessage : MemberHead false messageKey messageHead)
      (hBody : LiteralText message.toList body)
      (hBlanks : IsBlanks blanks)
      (hAfter : IsBlanks after) :
      NumberedText n message
        (before ++
          (Mark.openObject ::
              ((codeHead ++
                  (decimal n ++
                    (messageHead ++ (quoted body ++ blanks))))
                ++ [Mark.closeObject]) ++
            after))
  | messageFirst
      {before codeHead messageHead body blanks after : Bytes}
      (hBefore : IsBlanks before)
      (hMessage : MemberHead true messageKey messageHead)
      (hBody : LiteralText message.toList body)
      (hCode : MemberHead false codeKey codeHead)
      (hBlanks : IsBlanks blanks)
      (hAfter : IsBlanks after) :
      NumberedText n message
        (before ++
          (Mark.openObject ::
              ((messageHead ++
                  (quoted body ++
                    (codeHead ++ (decimal n ++ blanks))))
                ++ [Mark.closeObject]) ++
            after))

/- Both layouts of such an object are among them. -/
theorem numberedText_text
    (layout : Layout)
    (n : Nat)
    (message : String) :
    NumberedText n message
      (Utf8.encode
        ((Value.object
          [(codeKey, .number (.integer n)),
            (messageKey, .string message)]).text layout)) := by
  have hNumber :
      Utf8.encode (integerText n) = decimal n := by
    unfold integerText
    rw [if_neg (by omega), Utf8.encode_append, encode_repr,
      Int.natAbs_natCast]
    rfl
  have hText : NumberedText n message _ :=
    .codeFirst isBlanks_nil
      (memberHead_pieces layout 1 true codeKey)
      (memberHead_pieces layout 1 false messageKey)
      (literalText_body message.toList)
      (isBlanks_close layout 0) isBlanks_nil
  rw [encode_text]
  simpa [Value.pieces, Value.piecesAt, Value.memberPieces,
    Number.text, hNumber, encode_literal, encode_openObject,
    encode_closeObject] using hText

/- Such a text is read if the number is that of a code. -/
theorem ofJson_of_number
    (code : ErrorCode)
    {message : String}
    {text : Bytes}
    (hText : NumberedText code.number message text) :
    ofJson text = .ok ⟨code, message, ""⟩ := by
  have hNumber := code.number_lt
  have hLimit : code.number ≤ wordLimit := by
    unfold wordLimit
    omega
  have hReads :=
    ErrorCode.read_numeral code (numeral_decimal hLimit)
  cases hText with
  | codeFirst hBefore hCode hMessage hBody hBlanks hAfter =>
      have hGathers :
          Gathers record.fields true record.start _
            { code := some code, message := some message } :=
        .store hCode rfl rfl hReads rfl
          (.store hMessage rfl rfl (readText_quoted hBody)
            rfl (.done hBlanks))
      exact
        readDocument_text (Record.read_gathers hGathers rfl)
          hBefore hAfter
  | messageFirst hBefore hMessage hBody hCode hBlanks
      hAfter =>
      have hGathers :
          Gathers record.fields true record.start _
            { code := some code, message := some message } :=
        .store hMessage rfl rfl (readText_quoted hBody) rfl
          (.store hCode rfl rfl hReads rfl (.done hBlanks))
      exact
        readDocument_text (Record.read_gathers hGathers rfl)
          hBefore hAfter

/- It is not read otherwise. -/
theorem ofJson_of_no_number
    {n : Nat}
    (hNone : ErrorCode.ofNumber? n = none)
    {message : String}
    {text : Bytes}
    (hText : NumberedText n message text) :
    ∃ failure, ofJson text = .error failure := by
  have hRefuses := ErrorCode.read_decimal_of_none hNone
  cases hText with
  | @codeFirst _ codeHead messageHead body blanks _ hBefore
      hCode hMessage hBody hBlanks hAfter =>
      have hEnds :
          ∀ rest,
            EndsNumber
              ((messageHead ++ (quoted body ++ blanks)) ++
                Mark.closeObject :: rest) := by
        intro rest
        rw [List.append_assoc]
        exact hMessage.endsNumber _
      -- The code is refused before the message is seen.
      have hRefused :
          Refused record.fields true record.start _ :=
        .here hCode rfl rfl (hRefuses.bind _) hEnds
      exact
        readDocument_refuses (Record.read_refused hRefused)
          hBefore hAfter
  | messageFirst hBefore hMessage hBody hCode hBlanks
      hAfter =>
      have hRefused :
          Refused record.fields true record.start _ :=
        .later hMessage rfl rfl
          ((readText_quoted hBody).bind_pure _)
          (.here hCode rfl rfl (hRefuses.bind _)
            (endsNumber_append hBlanks rfl))
      exact
        readDocument_refuses (Record.read_refused hRefused)
          hBefore hAfter

/-
  The number decides alone, however great it is and
  whatever the message says.
-/
theorem ofJson_numberedText
    {n : Nat}
    {message : String}
    {text : Bytes}
    (hText : NumberedText n message text)
    (e : PluginError) :
    ofJson text = .ok e ↔
      ∃ code : ErrorCode,
        code.number = n ∧ e = ⟨code, message, ""⟩ := by
  cases hFound : ErrorCode.ofNumber? n with
  | some code =>
      rw [ErrorCode.ofNumber?_eq_some_iff] at hFound
      subst hFound
      rw [ofJson_of_number code hText, Except.ok.injEq]
      constructor
      · rintro rfl
        exact ⟨code, rfl, rfl⟩
      · rintro ⟨other, hNumber, rfl⟩
        -- No other code has the same number.
        have hSame := ErrorCode.ofNumber?_number other
        rw [hNumber, ErrorCode.ofNumber?_number] at hSame
        rw [Option.some.inj hSame]
  | none =>
      rcases ofJson_of_no_number hFound hText with
        ⟨failure, hFailure⟩
      rw [hFailure]
      constructor
      · intro hSame
        cases hSame
      · rintro ⟨code, rfl, _⟩
        rw [ErrorCode.ofNumber?_number] at hFound
        cases hFound

------------------------------------------------------------
-- Round Trip
------------------------------------------------------------

/- What reading back means for one error. -/
structure ReadsBack (e : PluginError) : Prop where
  /- What is printed is the indented form and a line feed. -/
  print :
    e.print .unlimited =
      (.ok (), { written := Utf8.encodeAll e.printed })
  indented : ofJson (Utf8.encodeAll e.printed) = .ok e
  compact :
    ofJson (Utf8.encode (e.toJson.text .compact)) = .ok e
  /- Both forms have the same members. -/
  details :
    ∃ members,
      Value.ofBytes (Utf8.encodeAll e.printed) =
          .ok (.object members) ∧
        Value.ofBytes
            (Utf8.encode (e.toJson.text .compact)) =
          .ok (.object members) ∧
        ((∃ member ∈ members, member.1 = detailsKey) ↔
          e.details ≠ "")

/- The form has a member for details that there are. -/
theorem exists_details_iff (e : PluginError) :
    ∃ members,
      e.toJson = .object members ∧
        ((∃ member ∈ members, member.1 = detailsKey) ↔
          e.details ≠ "") := by
  refine ⟨_, rfl, ?_⟩
  by_cases hNone : e.details = ""
  · simp [hNone, codeKey, messageKey, detailsKey]
  · simp [hNone]

theorem readsBack (e : PluginError) : ReadsBack e := by
  rcases e.exists_details_iff with
    ⟨members, hMembers, hDetails⟩
  have hIndented :
      Utf8.encodeAll e.printed =
        Utf8.encodeAll (e.toJson.pieces .indented) ++
          Utf8.encodeAll ["\n"] :=
    Utf8.encodeAll_append _ _
  have hCompact :
      Utf8.encode (e.toJson.text .compact) =
        Utf8.encodeAll (e.toJson.pieces .compact) ++ [] := by
    rw [encode_text, List.append_nil]
  constructor
  case print =>
    exact Sink.printPieces_of_isWritable ⟨rfl, rfl⟩ e.printed
  case indented =>
    rw [hIndented]
    exact e.ofJson_pieces .indented isBlanks_lineFeed
  case compact =>
    rw [hCompact]
    exact e.ofJson_pieces .compact isBlanks_nil
  case details =>
    refine ⟨members, ?_, ?_, hDetails⟩
    · rw [hIndented, ← hMembers]
      exact e.ofBytes_pieces .indented isBlanks_lineFeed
    · rw [hCompact, ← hMembers]
      exact e.ofBytes_pieces .compact isBlanks_nil

/-
  Every error reads back from what is printed for it, and
  an object with any number and message is read exactly as
  the error with the code of the number.
-/
theorem form_reads_back :
    (∀ e : PluginError, ReadsBack e) ∧
      (∀ layout n message,
        NumberedText n message
          (Utf8.encode
            ((Value.object
              [(codeKey, .number (.integer n)),
                (messageKey, .string message)]).text
              layout))) ∧
      ∀ n message text,
        NumberedText n message text →
        ∀ e,
          ofJson text = .ok e ↔
            ∃ code : ErrorCode,
              code.number = n ∧ e = ⟨code, message, ""⟩ := by
  refine ⟨readsBack, numberedText_text, ?_⟩
  intro n message text hText e
  exact ofJson_numberedText hText e

end PluginError

end NetPlugin
