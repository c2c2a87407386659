import NetPlugin.Bytes
import NetPlugin.Json.Printer
import NetPlugin.Text.Quoted

/-
  Why and where reading a JSON document fails.

  A failure is placed by the number of bytes that follow
  it.  Failures found only after a whole value was read are
  not placed at first; the surrounding record does that.

  Key definitions include:
    * `Json.Found`
    * `Json.Reason`
    * `Json.Reason.message`
    * `Json.Failure`
    * `Json.Position`
    * `Json.ReadError`
    * `Json.Failure.locate`
-/

------------------------------------------------------------
-- Reasons
------------------------------------------------------------

namespace NetPlugin

namespace Json

/- What stands where a value of another type is expected. -/
inductive Found where
  | null
  | boolean (value : Bool)
  | number (value : Number)
  | string (value : String)
  | sequence
  | map
  deriving DecidableEq, Repr

namespace Found

/- How messages name what was found. -/
def text : Found → String
  | .null => "null"
  | .boolean true => "boolean `true`"
  | .boolean false => "boolean `false`"
  | .number (.integer value) =>
      "integer `" ++ integerText value ++ "`"
  | .number (.float negative magnitude) =>
      "floating point `" ++
        (Number.float negative magnitude).text ++ "`"
  | .string value => "string " ++ Text.quote value
  | .sequence => "sequence"
  | .map => "map"

end Found

/- Why a document is refused. -/
inductive Reason where
  | endInValue
  | endInList
  | endInObject
  | endInString
  | expectedColon
  | expectedListEnd
  | expectedObjectEnd
  | expectedWord
  | expectedValue
  | invalidEscape
  | invalidNumber
  | numberOutOfRange
  | invalidUnicode
  | controlCharacter
  | keyNotString
  | loneSurrogate
  | unpairedSurrogate
  | trailingComma
  | trailingCharacters
  | tooDeep
  | wrongType (found : Found) (expected : String)
  | wrongValue (found : Found) (expected : String)
  | wrongLength (length : Nat) (expected : String)
  | missingField (name : String)
  | repeatedField (name : String)
  | rejected (message : String)
  deriving DecidableEq, Repr

namespace Reason

/- The text of a reason. -/
def message : Reason → String
  | .endInValue => "EOF while parsing a value"
  | .endInList => "EOF while parsing a list"
  | .endInObject => "EOF while parsing an object"
  | .endInString => "EOF while parsing a string"
  | .expectedColon => "expected `:`"
  | .expectedListEnd => "expected `,` or `]`"
  | .expectedObjectEnd => "expected `,` or `\x7d`"
  | .expectedWord => "expected ident"
  | .expectedValue => "expected value"
  | .invalidEscape => "invalid escape"
  | .invalidNumber => "invalid number"
  | .numberOutOfRange => "number out of range"
  | .invalidUnicode => "invalid unicode code point"
  | .controlCharacter =>
      "control character (\\u0000-\\u001F) found " ++
        "while parsing a string"
  | .keyNotString => "key must be a string"
  | .loneSurrogate => "lone leading surrogate in hex escape"
  | .unpairedSurrogate => "unexpected end of hex escape"
  | .trailingComma => "trailing comma"
  | .trailingCharacters => "trailing characters"
  | .tooDeep => "recursion limit exceeded"
  | .wrongType found expected =>
      "invalid type: " ++ found.text ++
        ", expected " ++ expected
  | .wrongValue found expected =>
      "invalid value: " ++ found.text ++
        ", expected " ++ expected
  | .wrongLength length expected =>
      "invalid length " ++ Nat.repr length ++
        ", expected " ++ expected
  | .missingField name => "missing field `" ++ name ++ "`"
  | .repeatedField name =>
      "duplicate field `" ++ name ++ "`"
  | .rejected message => message

end Reason

------------------------------------------------------------
-- Positions
------------------------------------------------------------

/- A line, counted from one, and a column in bytes. -/
structure Position where
  line : Nat
  column : Nat
  deriving DecidableEq, Repr

namespace Position

/- The byte that ends a line. -/
def lineFeed : UInt8 := 0x0A

/- The position reached after the first bytes of an input. -/
def after
    (input : Bytes)
    (offset : Nat) : Position :=
  let before := input.take offset
  { line := before.count lineFeed + 1
    column :=
      (before.reverse.takeWhile (· != lineFeed)).length }

end Position

------------------------------------------------------------
-- Failures
------------------------------------------------------------

/-
  A failure of a reader.  A placed one counts the bytes
  that follow it, and the columns by which it is shown
  further left; the other one keeps the bytes that were
  left when it was found.
-/
inductive Failure where
  | placed (reason : Reason) (left back : Nat)
  | unplaced (reason : Reason) (rest : Bytes)
  deriving DecidableEq, Repr

namespace Failure

/- A failure at a byte that was looked at, not consumed. -/
def atPeek
    (reason : Reason)
    (rest : Bytes) : Failure :=
  .placed reason (rest.length - 1) 0

/- A failure behind the bytes consumed so far. -/
def atNext
    (reason : Reason)
    (rest : Bytes) : Failure :=
  .placed reason rest.length 0

end Failure

/- What the caller of a reader gets to see. -/
structure ReadError where
  reason : Reason
  position : Option Position
  deriving DecidableEq, Repr

namespace ReadError

/- The reason, and the position where there is one. -/
def message (e : ReadError) : String :=
  match e.position with
  | none => e.reason.message
  | some position =>
      e.reason.message ++
        " at line " ++ Nat.repr position.line ++
        " column " ++ Nat.repr position.column

end ReadError

/- The failure as seen on the whole input. -/
def Failure.locate
    (input : Bytes) : Failure → ReadError
  | .unplaced reason _ => ⟨reason, none⟩
  | .placed reason left back =>
      let position :=
        Position.after input (input.length - left)
      ⟨reason,
        some
          { position with column := position.column - back }⟩

end Json

end NetPlugin
