import NetPlugin.Bytes
import NetPlugin.Stream.IoError

/-
  Streams that are read, as scripts of what each read will
  give.  Behind the last item every read gives the end of
  the file.

  Key definitions include:
    * `Source.Item`
    * `Source`
    * `Source.readToEnd`
    * `Source.unread`
-/

------------------------------------------------------------
-- Scripts
------------------------------------------------------------

namespace NetPlugin

/- What one read gives. -/
inductive Source.Item where
  | chunk (bytes : Bytes)
  | failure (error : IoError)
  | endOfFile
  deriving DecidableEq, Repr

/- The reads that are still to come. -/
abbrev Source :=
  List Source.Item

namespace Source

/- The number of bytes that were not consumed. -/
def unread : Source → Nat
  | [] => 0
  | .chunk bytes :: rest => bytes.length + unread rest
  | .failure _ :: rest => unread rest
  | .endOfFile :: rest => unread rest

------------------------------------------------------------
-- Reading Everything
------------------------------------------------------------

/-
  Read up to the first end of file or failure, which is
  consumed.  An interruption is no failure.  What was read
  before a failure is lost.
-/
def readToEnd : Source → Except IoError Bytes × Source
  | [] => (.ok [], [])
  | .chunk bytes :: rest =>
      let (outcome, left) := readToEnd rest
      (outcome.map (bytes ++ ·), left)
  | .failure error :: rest =>
      if error.isInterruption then readToEnd rest
      else (.error error, rest)
  | .endOfFile :: rest => (.ok [], rest)

/- A stream that is one text is read whole. -/
@[simp]
theorem readToEnd_chunk (bytes : Bytes) :
    readToEnd [.chunk bytes] = (.ok bytes, []) := by
  simp [readToEnd, Except.map]

end Source

end NetPlugin
