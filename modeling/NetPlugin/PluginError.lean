import NetPlugin.ErrorCode
import NetPlugin.Json.Record
import NetPlugin.Stream.Sink

/-
  The error that a plugin reports, and its JSON form.

  The form is an object with the number of the code, the
  message, and the details unless they are empty.

  Key definitions include:
    * `PluginError`
    * `PluginError.text`
    * `PluginError.toJson`
    * `PluginError.print`
    * `PluginError.ofJson`
-/

------------------------------------------------------------
-- Errors
------------------------------------------------------------

namespace NetPlugin

/- A code, a short message, and an optional explanation. -/
structure PluginError where
  code : ErrorCode
  message : String
  details : String := ""
  deriving DecidableEq, Repr

namespace PluginError

/- A failure inside the plugin that has no code. -/
def internal (message : String) : PluginError :=
  { code := .internal, message }

/- The same error with other details. -/
def withDetails
    (e : PluginError)
    (details : String) : PluginError :=
  { e with details }

/- Whether an error carries a code. -/
def hasCode
    (e : PluginError)
    (code : ErrorCode) : Bool :=
  e.code == code

/- The message, with the details where there are any. -/
def text (e : PluginError) : String :=
  if e.details = "" then e.message
  else e.message ++ "; " ++ e.details

------------------------------------------------------------
-- Writing
------------------------------------------------------------

/- The names of the members of the JSON form. -/
def codeKey : String := "code"

def messageKey : String := "msg"

def detailsKey : String := "details"

/- The JSON form. -/
def toJson (e : PluginError) : Json.Value :=
  .object
    ([(codeKey, .number (.integer e.code.number)),
        (messageKey, .string e.message)] ++
      if e.details = "" then []
      else [(detailsKey, .string e.details)])

/- The indented form with a line feed, as it is printed. -/
def printed (e : PluginError) : List String :=
  e.toJson.pieces .indented ++ ["\n"]

/- Print the indented form. -/
def print
    (e : PluginError)
    (sink : Sink) : Except IoError Unit × Sink :=
  sink.printPieces e.printed

end PluginError

------------------------------------------------------------
-- Reading Codes
------------------------------------------------------------

namespace ErrorCode

/- A number of 32 bits that belongs to a code. -/
def read : Json.Reader ErrorCode := do
  let n ← Json.readWord32
  match ofNumber? n with
  | some code => pure code
  | none => fun rest =>
      .error (.unplaced (.rejected (unknownNumber n)) rest)

/- The code of a whole JSON document. -/
def ofJson
    (input : Bytes) : Except Json.ReadError ErrorCode :=
  Json.readDocument read input

end ErrorCode

------------------------------------------------------------
-- Reading Errors
------------------------------------------------------------

namespace PluginError

/- The fields read so far. -/
structure Fields where
  code : Option ErrorCode := none
  message : Option String := none
  details : Option String := none

/- How the fields are read; only details may be missing. -/
def record : Json.Record Fields PluginError where
  title := "struct CniError"
  start := {}
  fields :=
    [ { name := codeKey
        seen := fun known => known.code.isSome
        read := fun known => do
          let code ← ErrorCode.read
          pure { known with code := some code } },
      { name := messageKey
        seen := fun known => known.message.isSome
        read := fun known => do
          let message ← Json.readText
          pure { known with message := some message } },
      { name := detailsKey
        seen := fun known => known.details.isSome
        read := fun known => do
          let details ← Json.readText
          pure { known with details := some details } } ]
  finish := fun known =>
    match known.code, known.message with
    | none, _ => .error codeKey
    | some _, none => .error messageKey
    | some code, some message =>
        .ok
          { code, message, details := known.details.getD "" }

/- The error of a whole JSON document. -/
def ofJson
    (input : Bytes) : Except Json.ReadError PluginError :=
  Json.readDocument record.read input

/- The indented form reads back. -/
example :
    (ofJson
      ((PluginError.mk .invalidNamespace "no" "a\n\"b\""
        ).printed.flatMap Utf8.encode)).toOption =
      some ⟨.invalidNamespace, "no", "a\n\"b\""⟩ := by
  decide +kernel

end PluginError

end NetPlugin
