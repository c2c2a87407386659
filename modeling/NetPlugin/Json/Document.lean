import NetPlugin.Json.Numeral
import NetPlugin.Json.Text

/-
  Reading any JSON value, and skipping one.

  Reading allows a limited number of open brackets.  A value
  that is skipped is checked less: there is no limit to its
  depth or its numbers, and its strings are not decoded.

  Key definitions include:
    * `Json.readItems`
    * `Json.readMembers`
    * `Json.readValue`
    * `Json.skipValue`
    * `Json.Value.ofBytes`
-/

------------------------------------------------------------
-- Words
------------------------------------------------------------

namespace NetPlugin

namespace Json

/- A value that is a word, by its first letter. -/
inductive Word where
  | null
  | true
  | false
  deriving DecidableEq, Repr

namespace Word

/- The word that begins with a letter. -/
def ofByte? (b : UInt8) : Option Word :=
  if b = 0x6E then some .null
  else if b = 0x74 then some .true
  else if b = 0x66 then some .false
  else none

/- The letters behind the first one. -/
def letters : Word → List UInt8
  | .null => [0x75, 0x6C, 0x6C]
  | .true => [0x72, 0x75, 0x65]
  | .false => [0x61, 0x6C, 0x73, 0x65]

/- The value that a word stands for. -/
def value : Word → Value
  | .null => .null
  | .true => .boolean Bool.true
  | .false => .boolean Bool.false

end Word

/- Whether a number begins here. -/
def startsNumber (b : UInt8) : Bool :=
  b == Mark.minus || isDigit b

------------------------------------------------------------
-- Arrays and Objects
------------------------------------------------------------

/-
  The items of an array.  The bound is the number of items
  that are tried; as each of them consumes a byte, the
  number of bytes is enough.
-/
def readItems
    {α : Type}
    (item : Reader α)
    (first : Bool) : Nat → Reader (List α)
  | 0 => fun _ => .error (.atPeek .endInList [])
  | bound + 1 => do
      if ← moreItems first then
        let value ← item
        let values ← readItems item false bound
        pure (value :: values)
      else pure []

/- A key, whose quote was only looked at. -/
def readKey : Reader String := fun bytes =>
  readString (bytes.drop 1)

/- The members of an object, with a bound as for items. -/
def readMembers
    {α : Type}
    (item : Reader α)
    (first : Bool) : Nat → Reader (List (String × α))
  | 0 => fun _ => .error (.atPeek .endInObject [])
  | bound + 1 => do
      if ← moreMembers first then
        let key ← readKey
        colon
        let value ← item
        let members ← readMembers item false bound
        pure ((key, value) :: members)
      else pure []

/- An array behind its opening bracket. -/
def readArray
    {α : Type}
    (item : Reader α) : Reader (List α) := fun bytes =>
  (do
    let items ← readItems item true (bytes.length + 1)
    closeArray
    pure items : Reader (List α)) bytes

/- An object behind its opening bracket. -/
def readObject
    {α : Type}
    (item : Reader α) :
    Reader (List (String × α)) := fun bytes =>
  (do
    let members ← readMembers item true (bytes.length + 1)
    closeObject
    pure members : Reader (List (String × α))) bytes

------------------------------------------------------------
-- Values
------------------------------------------------------------

/-
  A value, given the reader of the values one level below;
  there is none when no more brackets may be opened.
-/
def readValueWith
    (nested : Option (Reader Value)) :
    Reader Value := fun bytes =>
  match skipBlanks bytes with
  | [] => .error (.atPeek .endInValue [])
  | b :: rest =>
      match Word.ofByte? b with
      | some found =>
          (do word found.letters
              pure found.value : Reader Value) rest
      | none =>
          if startsNumber b then
            (Value.number <$> readNumber) (b :: rest)
          else if b = Mark.quote then
            (Value.string <$> readString) rest
          else if b = Mark.openArray then
            match nested with
            | none => .error (.atPeek .tooDeep (b :: rest))
            | some item =>
                (Value.array <$> readArray item) rest
          else if b = Mark.openObject then
            match nested with
            | none => .error (.atPeek .tooDeep (b :: rest))
            | some item =>
                (Value.object <$> readObject item) rest
          else .error (.atPeek .expectedValue (b :: rest))

/- A value in which some brackets may be open at once. -/
def readValue : Nat → Reader Value
  | 0 => readValueWith none
  | depth + 1 => readValueWith (some (readValue depth))

/- How many brackets of a document may be open at once. -/
def depthLimit : Nat := 127

/- The value of a whole document. -/
def Value.ofBytes
    (input : Bytes) : Except ReadError Value :=
  readDocument (readValue depthLimit) input

------------------------------------------------------------
-- Skipped Values
------------------------------------------------------------

/-
  Whether another item of a skipped array follows.  What
  stands behind a comma is not looked at.
-/
def moreSkippedItems (first : Bool) : Reader Bool :=
  fun bytes =>
    match skipBlanks bytes with
    | [] => .error (.atPeek .endInList [])
    | b :: rest =>
        if b = Mark.closeArray then .ok (false, rest)
        else if first then .ok (true, b :: rest)
        else if b = Mark.comma then .ok (true, rest)
        else .error (.atPeek .expectedListEnd (b :: rest))

/- Whether another member of a skipped object follows. -/
def moreSkippedMembers (first : Bool) : Reader Bool :=
  fun bytes =>
    match skipBlanks bytes with
    | [] => .error (.atPeek .endInObject [])
    | b :: rest =>
        if b = Mark.closeObject then .ok (false, rest)
        else if first then .ok (true, b :: rest)
        else if b = Mark.comma then .ok (true, rest)
        else .error (.atPeek .expectedObjectEnd (b :: rest))

/- The key of a skipped member. -/
def skipKey : Reader Unit := fun bytes =>
  match skipBlanks bytes with
  | [] => .error (.atPeek .endInObject [])
  | b :: rest =>
      if b = Mark.quote then skipString rest
      else .error (.atPeek .keyNotString (b :: rest))

/- Skip items up to the closing bracket, and it. -/
def skipItems
    (item : Reader Unit)
    (first : Bool) : Nat → Reader Unit
  | 0 => fun _ => .error (.atPeek .endInList [])
  | bound + 1 => do
      if ← moreSkippedItems first then
        item
        skipItems item false bound
      else pure ()

/- Skip members up to the closing bracket, and it. -/
def skipMembers
    (item : Reader Unit)
    (first : Bool) : Nat → Reader Unit
  | 0 => fun _ => .error (.atPeek .endInObject [])
  | bound + 1 => do
      if ← moreSkippedMembers first then
        skipKey
        colon
        item
        skipMembers item false bound
      else pure ()

/-
  Skip a value of a bounded depth.  A bracket consumes a
  byte, so that the number of bytes is bound enough.
-/
def skipNested : Nat → Reader Unit
  | 0 => fun _ => .error (.atPeek .endInValue [])
  | bound + 1 => fun bytes =>
      match skipBlanks bytes with
      | [] => .error (.atPeek .endInValue [])
      | b :: rest =>
          match Word.ofByte? b with
          | some found => word found.letters rest
          | none =>
              if startsNumber b then skipNumber (b :: rest)
              else if b = Mark.quote then skipString rest
              else if b = Mark.openArray then
                skipItems (skipNested bound) true
                  (rest.length + 1) rest
              else if b = Mark.openObject then
                skipMembers (skipNested bound) true
                  (rest.length + 1) rest
              else
                .error (.atPeek .expectedValue (b :: rest))

/- Skip any value. -/
def skipValue : Reader Unit := fun bytes =>
  skipNested (bytes.length + 1) bytes

end Json

end NetPlugin
