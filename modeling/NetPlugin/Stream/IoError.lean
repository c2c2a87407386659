/-
  Failures of reading from and writing to a stream.

  Key definitions include:
    * `Stream.FailureKind`
    * `IoError`
    * `IoError.text`
    * `IoError.shortWrite`
-/

------------------------------------------------------------
-- Kinds of Failures
------------------------------------------------------------

namespace NetPlugin

namespace Stream

/- What went wrong, as far as streams tell it apart. -/
inductive FailureKind where
  | brokenPipe
  | unexpectedEnd
  | wouldBlock
  | permissionDenied
  | timedOut
  | interrupted
  | shortWrite
  | other
  deriving DecidableEq, Repr

/- The text of a kind. -/
def FailureKind.text : FailureKind → String
  | .brokenPipe => "broken pipe"
  | .unexpectedEnd => "unexpected end of file"
  | .wouldBlock => "operation would block"
  | .permissionDenied => "permission denied"
  | .timedOut => "timed out"
  | .interrupted => "operation interrupted"
  | .shortWrite => "write zero"
  | .other => "other error"

end Stream

------------------------------------------------------------
-- Failures
------------------------------------------------------------

/- A failure, with a message of its own or without. -/
structure IoError where
  kind : Stream.FailureKind
  message : Option String
  deriving DecidableEq, Repr

namespace IoError

/- The message, or else the text of the kind. -/
def text (e : IoError) : String :=
  e.message.getD e.kind.text

/- Whether the operation is simply tried again. -/
def isInterruption (e : IoError) : Bool :=
  e.kind == .interrupted

/- A stream took no byte of what it was given. -/
def shortWrite : IoError :=
  ⟨.shortWrite, some "failed to write whole buffer"⟩

/- No room is left on the device behind a stream. -/
def deviceFull : IoError :=
  ⟨.other, some "No space left on device (os error 28)"⟩

end IoError

end NetPlugin
