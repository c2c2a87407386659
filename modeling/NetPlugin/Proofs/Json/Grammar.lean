import NetPlugin.Json.Document

/-
  The texts of a JSON value.

  A value has many texts: blanks may stand between its
  parts, and the characters of a string may be escaped in
  several ways.

  Main declarations:
    * `Json.IsBlanks` and `Json.EndsNumber`
    * `Json.CharText` and `Json.LiteralText`
    * `Json.Numeral` and `Json.MemberHead`
    * `Json.ValueText`, `Json.ItemsText` and
      `Json.MembersText`
    * `Json.Value.depth`
-/

------------------------------------------------------------
-- Blanks and Ends
------------------------------------------------------------

namespace NetPlugin

namespace Json

/- Bytes that may stand between the parts of a text. -/
def IsBlanks (bytes : Bytes) : Prop :=
  ∀ b ∈ bytes, isBlank b = true

/- The bytes with which a numeral may go on. -/
def continuesNumber (b : UInt8) : Bool :=
  isDigit b || b == Mark.point || isExponentMark b

/- What follows a numeral must not belong to it. -/
def EndsNumber (rest : Bytes) : Prop :=
  ∀ b, rest.head? = some b → continuesNumber b = false

/- The comma before every item or member but the first. -/
def separatorBytes (first : Bool) : Bytes :=
  if first then [] else [Mark.comma]

------------------------------------------------------------
-- Strings
------------------------------------------------------------

/-
  The ways of writing a character inside a literal: as it
  is, with a letter, with four digits, or as a pair of
  surrogates.
-/
inductive CharText : Char → Bytes → Prop
  | plain
      {c : Char}
      (hControl : 0x20 ≤ c.toNat)
      (hQuote : c ≠ '"')
      (hBackslash : c ≠ '\\') :
      CharText c (Utf8.encodeChar c)
  | short
      (letter : UInt8)
      {byte : UInt8}
      (hLetter : shortEscape? letter = some byte) :
      CharText (Char.ofNat byte.toNat)
        [Mark.backslash, letter]
  | numbered
      {c : Char}
      {digits : Bytes}
      (hLength : digits.length = 4)
      (hDigits : hexQuad digits = .ok c.toNat) :
      CharText c (Mark.backslash :: unicodeLetter :: digits)
  | paired
      {c : Char}
      {upper lower : Bytes}
      {leading trailing : Nat}
      (hUpper : upper.length = 4)
      (hLower : lower.length = 4)
      (hLeading : hexQuad upper = .ok leading)
      (hTrailing : hexQuad lower = .ok trailing)
      (hFirst : isLeadingSurrogate leading = true)
      (hSecond : isTrailingSurrogate trailing = true)
      (hPoint : pairedPoint leading trailing = c.toNat) :
      CharText c
        (Mark.backslash :: unicodeLetter ::
          (upper ++
            Mark.backslash :: unicodeLetter :: lower))

/- The texts of characters one after the other. -/
inductive LiteralText : List Char → Bytes → Prop
  | nil : LiteralText [] []
  | cons
      {c : Char}
      {cs : List Char}
      {text more : Bytes}
      (hChar : CharText c text)
      (hMore : LiteralText cs more) :
      LiteralText (c :: cs) (text ++ more)

/- A literal with its two quotes. -/
def quoted (body : Bytes) : Bytes :=
  Mark.quote :: (body ++ [Mark.quote])

------------------------------------------------------------
-- Values
------------------------------------------------------------

/- A text that is read as a number, up to its end. -/
structure Numeral
    (number : Number)
    (text : Bytes) : Prop where
  starts : ∃ b tail, text = b :: tail ∧ startsNumber b = true
  reads :
    ∀ rest, EndsNumber rest →
      readNumber (text ++ rest) = .ok (number, rest)

/-
  What stands before the value of a member: a comma, unless
  it is the first one, the key, and the colon.
-/
inductive MemberHead
    (first : Bool)
    (key : String) : Bytes → Prop
  | mk
      {blanks gap body space room : Bytes}
      (hBlanks : IsBlanks blanks)
      (hGap : IsBlanks gap)
      (hKey : LiteralText key.toList body)
      (hSpace : IsBlanks space)
      (hRoom : IsBlanks room) :
      MemberHead first key
        (blanks ++
          (separatorBytes first ++
            (gap ++
              (quoted body ++
                (space ++ Mark.colon :: room)))))

mutual

/- The texts of a value, without blanks around it. -/
inductive ValueText : Value → Bytes → Prop
  | word
      {found : Word}
      {b : UInt8}
      (hWord : Word.ofByte? b = some found) :
      ValueText found.value (b :: found.letters)
  | number
      {number : Number}
      {text : Bytes}
      (hNumeral : Numeral number text) :
      ValueText (.number number) text
  | string
      {value : String}
      {body : Bytes}
      (hBody : LiteralText value.toList body) :
      ValueText (.string value) (quoted body)
  | array
      {items : List Value}
      {body : Bytes}
      (hBody : ItemsText true items body) :
      ValueText (.array items)
        (Mark.openArray :: (body ++ [Mark.closeArray]))
  | object
      {members : List (String × Value)}
      {body : Bytes}
      (hBody : MembersText true members body) :
      ValueText (.object members)
        (Mark.openObject :: (body ++ [Mark.closeObject]))

/- The texts of items, up to the closing bracket. -/
inductive ItemsText : Bool → List Value → Bytes → Prop
  | done
      {first : Bool}
      {blanks : Bytes}
      (hBlanks : IsBlanks blanks) :
      ItemsText first [] blanks
  | next
      {first : Bool}
      {item : Value}
      {items : List Value}
      {blanks gap text more : Bytes}
      (hBlanks : IsBlanks blanks)
      (hGap : IsBlanks gap)
      (hItem : ValueText item text)
      (hMore : ItemsText false items more) :
      ItemsText first (item :: items)
        (blanks ++
          (separatorBytes first ++ (gap ++ (text ++ more))))

/- The texts of members, up to the closing bracket. -/
inductive MembersText :
    Bool → List (String × Value) → Bytes → Prop
  | done
      {first : Bool}
      {blanks : Bytes}
      (hBlanks : IsBlanks blanks) :
      MembersText first [] blanks
  | next
      {first : Bool}
      {key : String}
      {value : Value}
      {members : List (String × Value)}
      {head text more : Bytes}
      (hHead : MemberHead first key head)
      (hValue : ValueText value text)
      (hMore : MembersText false members more) :
      MembersText first ((key, value) :: members)
        (head ++ (text ++ more))

end

------------------------------------------------------------
-- Depth
------------------------------------------------------------

mutual

/- How many brackets are open at once in a value. -/
def Value.depth : Value → Nat
  | .array items => Value.itemsDepth items + 1
  | .object members => Value.membersDepth members + 1
  | _ => 0

/- The greatest depth of an item. -/
def Value.itemsDepth : List Value → Nat
  | [] => 0
  | item :: rest =>
      max (Value.depth item) (Value.itemsDepth rest)

/- The greatest depth of a member's value. -/
def Value.membersDepth : List (String × Value) → Nat
  | [] => 0
  | (_, value) :: rest =>
      max (Value.depth value) (Value.membersDepth rest)

end

end Json

end NetPlugin
