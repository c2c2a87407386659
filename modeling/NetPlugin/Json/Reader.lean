import NetPlugin.Json.Fault
import NetPlugin.Text.Utf8

/-
  Readers of bytes, and the parts of JSON that all of them
  share: blanks, the words of the language, and the marks
  between items and members.

  Key definitions include:
    * `Json.Reader`
    * `Json.skipBlanks`
    * `Json.word`
    * `Json.moreItems`
    * `Json.moreMembers`
    * `Json.colon`
    * `Json.closeArray`
    * `Json.closeObject`
    * `Json.readDocument`
-/

------------------------------------------------------------
-- Bytes with a Meaning
------------------------------------------------------------

namespace NetPlugin

namespace Json

namespace Mark

/- The bytes that JSON gives a meaning. -/
def quote : UInt8 := 0x22

def backslash : UInt8 := 0x5C

def comma : UInt8 := 0x2C

def colon : UInt8 := 0x3A

def openArray : UInt8 := 0x5B

def closeArray : UInt8 := 0x5D

def openObject : UInt8 := 0x7B

def closeObject : UInt8 := 0x7D

def minus : UInt8 := 0x2D

def plus : UInt8 := 0x2B

def point : UInt8 := 0x2E

def zero : UInt8 := 0x30

end Mark

/- Space, line feed, carriage return and tabulator. -/
def isBlank (b : UInt8) : Bool :=
  b == 0x20 || b == 0x0A || b == 0x0D || b == 0x09

/- The ten digits. -/
def isDigit (b : UInt8) : Bool :=
  0x30 ≤ b && b ≤ 0x39

/- Whether an exponent begins here. -/
def isExponentMark (b : UInt8) : Bool :=
  b == 0x65 || b == 0x45

/- The bytes behind any blanks. -/
def skipBlanks (bytes : Bytes) : Bytes :=
  bytes.dropWhile isBlank

/- Nothing is skipped twice. -/
@[simp]
theorem skipBlanks_skipBlanks (bytes : Bytes) :
    skipBlanks (skipBlanks bytes) = skipBlanks bytes := by
  induction bytes with
  | nil => rfl
  | cons b rest ih =>
      by_cases hBlank : isBlank b = true
      · simpa [skipBlanks, List.dropWhile, hBlank] using ih
      · simp [skipBlanks, List.dropWhile, hBlank]

------------------------------------------------------------
-- Readers
------------------------------------------------------------

/-
  A reader consumes bytes from the front and answers with a
  value and the bytes that are left, or fails.
-/
abbrev Reader (α : Type) :=
  StateT Bytes (Except Failure) α

namespace Reader

/- Readers in sequence, seen on the bytes. -/
theorem bind_apply
    {α β : Type}
    (first : Reader α)
    (next : α → Reader β)
    (bytes : Bytes) :
    (first >>= next) bytes =
      match first bytes with
      | .ok (value, rest) => next value rest
      | .error failure => .error failure := by
  show (do let (a, s) ← first bytes; next a s) = _
  cases first bytes <;> rfl

theorem pure_apply
    {α : Type}
    (value : α)
    (bytes : Bytes) :
    (pure value : Reader α) bytes = .ok (value, bytes) :=
  rfl

/- A value that is changed after it was read. -/
theorem map_apply
    {α β : Type}
    (change : α → β)
    (reader : Reader α)
    (bytes : Bytes) :
    (change <$> reader) bytes =
      match reader bytes with
      | .ok (value, rest) => .ok (change value, rest)
      | .error failure => .error failure := by
  show (do let (a, s) ← reader bytes; pure (change a, s)) = _
  cases reader bytes <;> rfl

end Reader

/- Consume the given bytes, one after the other. -/
def word : List UInt8 → Reader Unit
  | [], rest => .ok ((), rest)
  | _ :: _, [] => .error (.atNext .endInValue [])
  | expected :: more, b :: rest =>
      if b = expected then word more rest
      else .error (.atNext .expectedWord rest)

------------------------------------------------------------
-- Items and Members
------------------------------------------------------------

/-
  Whether another item follows in an array.  A comma is
  consumed, the closing bracket is not.
-/
def moreItems (first : Bool) : Reader Bool := fun bytes =>
  match skipBlanks bytes with
  | [] => .error (.atPeek .endInList [])
  | b :: rest =>
      if b = Mark.closeArray then .ok (false, b :: rest)
      else if first then .ok (true, b :: rest)
      else if b = Mark.comma then
        match skipBlanks rest with
        | [] => .error (.atPeek .endInValue [])
        | c :: after =>
            if c = Mark.closeArray then
              .error (.atPeek .trailingComma (c :: after))
            else .ok (true, c :: after)
      else .error (.atPeek .expectedListEnd (b :: rest))

/-
  Whether another member follows in an object.  A comma is
  consumed, the closing bracket and the quote before the
  key are not.
-/
def moreMembers (first : Bool) : Reader Bool := fun bytes =>
  match skipBlanks bytes with
  | [] => .error (.atPeek .endInObject [])
  | b :: rest =>
      if b = Mark.closeObject then .ok (false, b :: rest)
      else if first then
        if b = Mark.quote then .ok (true, b :: rest)
        else .error (.atPeek .keyNotString (b :: rest))
      else if b = Mark.comma then
        match skipBlanks rest with
        | [] => .error (.atPeek .endInValue [])
        | c :: after =>
            if c = Mark.quote then .ok (true, c :: after)
            else if c = Mark.closeObject then
              .error (.atPeek .trailingComma (c :: after))
            else .error (.atPeek .keyNotString (c :: after))
      else .error (.atPeek .expectedObjectEnd (b :: rest))

/- The colon between a key and its value. -/
def colon : Reader Unit := fun bytes =>
  match skipBlanks bytes with
  | [] => .error (.atPeek .endInObject [])
  | b :: rest =>
      if b = Mark.colon then .ok ((), rest)
      else .error (.atPeek .expectedColon (b :: rest))

/- The bracket behind the last item. -/
def closeArray : Reader Unit := fun bytes =>
  match skipBlanks bytes with
  | [] => .error (.atPeek .endInList [])
  | b :: rest =>
      if b = Mark.closeArray then .ok ((), rest)
      else if b = Mark.comma then
        match skipBlanks rest with
        | [] => .error (.atPeek .trailingCharacters [])
        | c :: after =>
            if c = Mark.closeArray then
              .error (.atPeek .trailingComma (c :: after))
            else
              .error (.atPeek .trailingCharacters (c :: after))
      else .error (.atPeek .trailingCharacters (b :: rest))

/- The bracket behind the last member. -/
def closeObject : Reader Unit := fun bytes =>
  match skipBlanks bytes with
  | [] => .error (.atPeek .endInObject [])
  | b :: rest =>
      if b = Mark.closeObject then .ok ((), rest)
      else if b = Mark.comma then
        .error (.atPeek .trailingComma (b :: rest))
      else .error (.atPeek .trailingCharacters (b :: rest))

------------------------------------------------------------
-- Documents
------------------------------------------------------------

/- Read one value, behind which only blanks may follow. -/
def readDocument
    {α : Type}
    (reader : Reader α)
    (input : Bytes) : Except ReadError α :=
  match reader input with
  | .error failure => .error (failure.locate input)
  | .ok (value, rest) =>
      match skipBlanks rest with
      | [] => .ok value
      | b :: after =>
          .error
            ((Failure.atPeek .trailingCharacters
              (b :: after)).locate input)

end Json

end NetPlugin
