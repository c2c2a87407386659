import NetPlugin.Json.Document

/-
  Reading values of a known type: texts, small numbers,
  lists, and records with named fields.

  A record is read from an object, or from an array that
  holds its fields in order.  Members with other keys are
  skipped, and a repeated field is refused.

  Key definitions include:
    * `Json.refuse`
    * `Json.readText`
    * `Json.readOptionalText`
    * `Json.readWord32`
    * `Json.readList`
    * `Json.Field`
    * `Json.Record`
    * `Json.Record.read`
-/

------------------------------------------------------------
-- Values of Another Type
------------------------------------------------------------

namespace NetPlugin

namespace Json

namespace Word

/- How messages show a word. -/
def found : Word → Found
  | .null => .null
  | .true => .boolean Bool.true
  | .false => .boolean Bool.false

end Word

/- Refuse a scalar behind its end, or fail inside it. -/
def refuseAfter
    {α : Type}
    (expected : String)
    (scalar : Reader α)
    (found : α → Found)
    (bytes : Bytes) : Failure :=
  match scalar bytes with
  | .error failure => failure
  | .ok (value, rest) =>
      .atNext (.wrongType (found value) expected) rest

/-
  The failure at a value of the wrong type.  A scalar is
  read to its end first, an array or object is not entered.
-/
def refuse
    (expected : String)
    (bytes : Bytes) : Failure :=
  match bytes with
  | [] => .atPeek .endInValue []
  | b :: rest =>
      match Word.ofByte? b with
      | some value =>
          refuseAfter expected (word value.letters)
            (fun _ => value.found) rest
      | none =>
          if startsNumber b then
            refuseAfter expected readNumber .number (b :: rest)
          else if b = Mark.quote then
            refuseAfter expected readString .string rest
          else if b = Mark.openArray then
            .atNext (.wrongType .sequence expected) (b :: rest)
          else if b = Mark.openObject then
            .atNext (.wrongType .map expected) (b :: rest)
          else .atPeek .expectedValue (b :: rest)

------------------------------------------------------------
-- Scalars and Lists
------------------------------------------------------------

/- A text. -/
def readText : Reader String := fun bytes =>
  match skipBlanks bytes with
  | [] => .error (.atPeek .endInValue [])
  | b :: rest =>
      if b = Mark.quote then readString rest
      else .error (refuse "a string" (b :: rest))

/- A text, or null for none. -/
def readOptionalText : Reader (Option String) := fun bytes =>
  match skipBlanks bytes with
  | [] => .error (.atPeek .endInValue [])
  | b :: rest =>
      if Word.ofByte? b = some .null then
        (do word Word.null.letters
            pure none : Reader (Option String)) rest
      else (some <$> readText) (b :: rest)

/- The numbers of 32 bits without sign. -/
def word32Limit : Int := 0x100000000

/- An integer of 32 bits without sign. -/
def readWord32 : Reader Nat := fun bytes =>
  match skipBlanks bytes with
  | [] => .error (.atPeek .endInValue [])
  | b :: rest =>
      if startsNumber b then
        match readNumber (b :: rest) with
        | .error failure => .error failure
        | .ok (.integer value, after) =>
            if 0 ≤ value ∧ value < word32Limit then
              .ok (value.toNat, after)
            else
              .error
                (.atNext
                  (.wrongValue (.number (.integer value))
                    "u32")
                  after)
        | .ok (.float negative magnitude, after) =>
            .error
              (.atNext
                (.wrongType
                  (.number (.float negative magnitude))
                  "u32")
                after)
      else .error (refuse "u32" (b :: rest))

/- A list of any length. -/
def readList
    {α : Type}
    (item : Reader α) : Reader (List α) := fun bytes =>
  match skipBlanks bytes with
  | [] => .error (.atPeek .endInValue [])
  | b :: rest =>
      if b = Mark.openArray then readArray item rest
      else .error (refuse "a sequence" (b :: rest))

------------------------------------------------------------
-- Fields
------------------------------------------------------------

/-
  A field of a record whose values are gathered in `σ`: its
  name, whether it was read already, and how its value is
  read and stored.
-/
structure Field (σ : Type) where
  name : String
  seen : σ → Bool
  read : σ → Reader σ

/-
  A kind of record: how messages call it, what is known
  before reading, its fields in order, and the value that
  results, unless the named field is missing.
-/
structure Record (σ α : Type) where
  title : String
  start : σ
  fields : List (Field σ)
  finish : σ → Except String α

/- The members of an object, stored field by field. -/
def readFields
    {σ : Type}
    (fields : List (Field σ))
    (first : Bool) : Nat → σ → Reader σ
  | 0, _ => fun _ => .error (.atPeek .endInObject [])
  | bound + 1, known => do
      if ← moreMembers first then
        let key ← readKey
        match fields.find? (·.name = key) with
        | none =>
            colon
            skipValue
            readFields fields false bound known
        | some field =>
            if field.seen known then
              fun rest =>
                .error (.unplaced (.repeatedField key) rest)
            else
              colon
              let next ← field.read known
              readFields fields false bound next
      else pure known

/- The items of an array, stored as fields in order. -/
def readPositions
    {σ : Type}
    (first : Bool) : List (Field σ) → σ → Reader σ
  | [], known => pure known
  | field :: fields, known => do
      if ← moreItems first then
        let next ← field.read known
        readPositions false fields next
      else pure known

------------------------------------------------------------
-- Records
------------------------------------------------------------

/- What is left behind the end of an array, if it is here. -/
def pastArrayEnd (bytes : Bytes) : Bytes :=
  match skipBlanks bytes with
  | [] => []
  | b :: rest =>
      if b = Mark.closeArray then rest
      else if b = Mark.comma then skipBlanks rest
      else b :: rest

/- What is left behind the end of an object, if it is here. -/
def pastObjectEnd (bytes : Bytes) : Bytes :=
  match skipBlanks bytes with
  | [] => []
  | b :: rest =>
      if b = Mark.closeObject then rest else b :: rest

/-
  A failure that a record finds is placed behind the end of
  the record, so far as that end follows.
-/
def Failure.place
    (past : Bytes → Bytes) : Failure → Failure
  | .unplaced reason rest => .atNext reason (past rest)
  | .placed reason left back => .placed reason left back

/-
  Gather the fields, make the value, and close the record;
  the first of these to fail decides.
-/
def closeRecord
    {σ α : Type}
    (gathered : Reader σ)
    (finish : σ → Except Reason α)
    (past : Bytes → Bytes)
    (close : Reader Unit) : Reader α := fun bytes =>
  match gathered bytes with
  | .error failure => .error (failure.place past)
  | .ok (known, rest) =>
      match finish known with
      | .error reason =>
          .error ((Failure.unplaced reason rest).place past)
      | .ok value =>
          match close rest with
          | .error failure => .error failure
          | .ok ((), after) => .ok (value, after)

namespace Record

variable {σ α : Type}

/- How messages describe the array form of a record. -/
def arrayTitle (record : Record σ α) : String :=
  record.title ++ " with " ++
    Nat.repr record.fields.length ++ " elements"

/- The value of an object, or the field that is missing. -/
def finishObject
    (record : Record σ α)
    (known : σ) : Except Reason α :=
  (record.finish known).mapError .missingField

/- The value of an array, or the length that is too short. -/
def finishArray
    (record : Record σ α)
    (known : σ) : Except Reason α :=
  (record.finish known).mapError fun name =>
    .wrongLength
      (record.fields.findIdx (·.name = name))
      record.arrayTitle

/- Read a record from an object or an array. -/
def read (record : Record σ α) : Reader α := fun bytes =>
  match skipBlanks bytes with
  | [] => .error (.atPeek .endInValue [])
  | b :: rest =>
      if b = Mark.openArray then
        closeRecord
          (readPositions true record.fields record.start)
          record.finishArray pastArrayEnd closeArray rest
      else if b = Mark.openObject then
        closeRecord
          (readFields record.fields true (rest.length + 1)
            record.start)
          record.finishObject pastObjectEnd closeObject rest
      else .error (refuse record.title (b :: rest))

end Record

end Json

end NetPlugin
