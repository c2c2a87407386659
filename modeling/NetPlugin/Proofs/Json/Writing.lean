import NetPlugin.Json.Printer
import NetPlugin.Proofs.Json.Reading

/-
  What is printed for a value is a text of the value.

  This holds of both layouts, which differ in their blanks
  only.  Floating-point numbers are left out: the numbers
  that plugins print are integers.

  Main declarations:
    * `Json.Value.HasIntegers`
    * `Json.valueText_pieces`
    * `Json.Value.ofBytes_pieces`
-/

------------------------------------------------------------
-- Blanks of a Layout
------------------------------------------------------------

namespace NetPlugin

namespace Json

/- The bytes of a text are those of its pieces. -/
theorem encode_text
    (layout : Layout)
    (value : Value) :
    Utf8.encode (value.text layout) =
      Utf8.encodeAll (value.pieces layout) :=
  Utf8.encode_join _

/- What ends a printed document. -/
theorem isBlanks_lineFeed :
    IsBlanks (Utf8.encodeAll ["\n"]) :=
  List.forall_mem_singleton.2 rfl

theorem isBlanks_lineBreak (depth : Nat) :
    IsBlanks (Utf8.encode (Layout.lineBreak depth)) := by
  intro b hByte
  simp only [Utf8.encode, Layout.lineBreak,
    String.toList_ofList, Utf8.encodeChars_cons,
    List.mem_append] at hByte
  rcases hByte with hBreak | hSpaces
  · rw [List.mem_singleton.1 hBreak]
    rfl
  · rcases List.mem_flatMap.1 hSpaces with ⟨c, hMem, hByte⟩
    rw [List.eq_of_mem_replicate hMem] at hByte
    rw [List.mem_singleton.1 hByte]
    rfl

/- Before an item stands a comma, and behind it blanks. -/
theorem encode_separator
    (layout : Layout)
    (first : Bool)
    (depth : Nat) :
    ∃ gap,
      IsBlanks gap ∧
        Utf8.encode (layout.separator first depth) =
          separatorBytes first ++ gap := by
  have hComma :
      Utf8.encode (if first then "" else ",") =
        separatorBytes first := by
    cases first <;> rfl
  unfold Layout.separator
  rw [Utf8.encode_append, hComma]
  cases layout with
  | compact => exact ⟨[], isBlanks_nil, rfl⟩
  | indented => exact ⟨_, isBlanks_lineBreak depth, rfl⟩

theorem encode_colon (layout : Layout) :
    ∃ room,
      IsBlanks room ∧
        Utf8.encode layout.colon = Mark.colon :: room := by
  cases layout with
  | compact => exact ⟨[], isBlanks_nil, rfl⟩
  | indented => exact ⟨[0x20], by simp [IsBlanks, isBlank], rfl⟩

theorem isBlanks_close
    (layout : Layout)
    (depth : Nat) :
    IsBlanks (Utf8.encode (layout.close depth)) := by
  cases layout with
  | compact => exact isBlanks_nil
  | indented => exact isBlanks_lineBreak depth

/- What is printed before the value of a member. -/
theorem memberHead_pieces
    (layout : Layout)
    (depth : Nat)
    (first : Bool)
    (key : String) :
    MemberHead first key
      (Utf8.encodeAll
        [layout.separator first depth, literal key,
          layout.colon]) := by
  rcases encode_separator layout first depth with
    ⟨gap, hGap, hSeparator⟩
  rcases encode_colon layout with ⟨room, hRoom, hColon⟩
  have hHead : MemberHead first key _ :=
    .mk isBlanks_nil hGap (literalText_body key.toList)
      isBlanks_nil hRoom
  simp only [Utf8.encodeAll_cons, Utf8.encodeAll_nil,
    hSeparator, hColon, encode_literal]
  simpa using hHead

------------------------------------------------------------
-- Values
------------------------------------------------------------

mutual

/- A value whose numbers are integers of 64 bits. -/
def Value.HasIntegers : Value → Prop
  | .number (.integer value) => FitsWord value
  | .number (.float _ _) => False
  | .array items => Value.itemsHaveIntegers items
  | .object members => Value.membersHaveIntegers members
  | _ => True

def Value.itemsHaveIntegers : List Value → Prop
  | [] => True
  | item :: rest =>
      Value.HasIntegers item ∧ Value.itemsHaveIntegers rest

def Value.membersHaveIntegers :
    List (String × Value) → Prop
  | [] => True
  | (_, value) :: rest =>
      Value.HasIntegers value ∧
        Value.membersHaveIntegers rest

end

theorem Word.ofByte?_null :
    Word.ofByte? 0x6E = some .null := rfl

theorem Word.ofByte?_true :
    Word.ofByte? 0x74 = some .true := rfl

theorem Word.ofByte?_false :
    Word.ofByte? 0x66 = some .false := rfl

theorem encode_openArray :
    Utf8.encode "[" = [Mark.openArray] := rfl

theorem encode_closeArray :
    Utf8.encode "]" = [Mark.closeArray] := rfl

theorem encode_openObject :
    Utf8.encode "\x7b" = [Mark.openObject] := rfl

theorem encode_closeObject :
    Utf8.encode "\x7d" = [Mark.closeObject] := rfl

mutual

/- What is printed for a value is one of its texts. -/
theorem valueText_pieces
    (layout : Layout)
    (depth : Nat) :
    (value : Value) →
    value.HasIntegers →
    ValueText value
      (Utf8.encodeAll (value.piecesAt layout depth))
  | .null, _ => ValueText.word Word.ofByte?_null
  | .boolean true, _ => ValueText.word Word.ofByte?_true
  | .boolean false, _ => ValueText.word Word.ofByte?_false
  | .number (.integer value), hFits => by
      simp only [Value.piecesAt, Utf8.encodeAll_cons,
        Utf8.encodeAll_nil, List.append_nil]
      exact .number (numeral_integerText hFits)
  | .number (.float _ _), hFalse => hFalse.elim
  | .string value, _ => by
      simp only [Value.piecesAt, Utf8.encodeAll_cons,
        Utf8.encodeAll_nil, List.append_nil, encode_literal]
      exact .string (literalText_body value.toList)
  | .array [], _ => ValueText.array (.done isBlanks_nil)
  | .array (item :: rest), hFits => by
      have hBody :=
        itemsText_pieces layout (depth + 1) true
          (item :: rest) hFits (isBlanks_close layout depth)
      have hText := ValueText.array hBody
      simpa [Value.piecesAt, encode_openArray,
        encode_closeArray] using hText
  | .object [], _ => ValueText.object (.done isBlanks_nil)
  | .object (member :: rest), hFits => by
      have hBody :=
        membersText_pieces layout (depth + 1) true
          (member :: rest) hFits
          (isBlanks_close layout depth)
      have hText := ValueText.object hBody
      simpa [Value.piecesAt, encode_openObject,
        encode_closeObject] using hText

theorem itemsText_pieces
    (layout : Layout)
    (depth : Nat)
    (first : Bool) :
    (items : List Value) →
    Value.itemsHaveIntegers items →
    {blanks : Bytes} →
    IsBlanks blanks →
    ItemsText first items
      (Utf8.encodeAll
          (Value.itemPieces layout depth first items) ++
        blanks)
  | [], _, _, hBlanks => ItemsText.done hBlanks
  | item :: rest, hFits, _, hBlanks => by
      rcases encode_separator layout first depth with
        ⟨gap, hGap, hSeparator⟩
      have hItem := valueText_pieces layout depth item hFits.1
      have hMore :=
        itemsText_pieces layout depth false rest hFits.2
          hBlanks
      have hText : ItemsText first (item :: rest) _ :=
        .next isBlanks_nil hGap hItem hMore
      simpa [Value.itemPieces, hSeparator] using hText

theorem membersText_pieces
    (layout : Layout)
    (depth : Nat)
    (first : Bool) :
    (members : List (String × Value)) →
    Value.membersHaveIntegers members →
    {blanks : Bytes} →
    IsBlanks blanks →
    MembersText first members
      (Utf8.encodeAll
          (Value.memberPieces layout depth first members)
        ++ blanks)
  | [], _, _, hBlanks => MembersText.done hBlanks
  | (key, value) :: rest, hFits, _, hBlanks => by
      have hHead := memberHead_pieces layout depth first key
      have hValue :=
        valueText_pieces layout depth value hFits.1
      have hMore :=
        membersText_pieces layout depth false rest hFits.2
          hBlanks
      have hText := MembersText.next hHead hValue hMore
      simpa [Value.memberPieces] using hText

end

/- A document that was printed reads back as its value. -/
theorem Value.ofBytes_pieces
    (layout : Layout)
    {value : Value}
    (hFits : value.HasIntegers)
    (hDepth : value.depth ≤ depthLimit)
    {after : Bytes}
    (hAfter : IsBlanks after) :
    ofBytes (Utf8.encodeAll (value.pieces layout) ++ after) =
      .ok value :=
  ofBytes_text (valueText_pieces layout 0 value hFits) hDepth
    isBlanks_nil hAfter

end Json

end NetPlugin
