import NetPlugin.Stream.IoError
import NetPlugin.Text.Utf8

/-
  Streams that are written, with the faults they may have.

  The faults of a sink come one after the other.  Before
  each of them a number of bytes is accepted; the attempt
  that comes to it fails, with an error or by taking no
  byte, and afterwards the sink may be whole again.

  Key definitions include:
    * `Sink.Fault`
    * `Sink`
    * `Sink.writeAll`
    * `Sink.flush`
    * `Sink.writePieces`
    * `Sink.printPieces`
-/

------------------------------------------------------------
-- Faults
------------------------------------------------------------

namespace NetPlugin

namespace Sink

/-
  How many bytes are accepted before a fault, how the
  attempt fails that comes to it, and whether no other one
  does.  Without an error the attempt takes no byte.
-/
structure Fault where
  room : Nat
  error : Option IoError := none
  once : Bool := false
  deriving DecidableEq, Repr

namespace Fault

/- The error that writing ends with. -/
def failure (fault : Fault) : IoError :=
  fault.error.getD .shortWrite

/- The attempt was interrupted, and is made again. -/
def isInterruption (fault : Fault) : Bool :=
  fault.failure.isInterruption

/- A fault before which so many bytes were accepted. -/
def spend
    (fault : Fault)
    (count : Nat) : Fault :=
  { fault with room := fault.room - count }

/-
  The faults that are left behind one.  An interruption
  never lasts: were every attempt interrupted, writing
  would not end at all.
-/
def after
    (fault : Fault)
    (later : List Fault) : List Fault :=
  if fault.once || fault.isInterruption then later
  else { fault with room := 0 } :: later

end Fault

end Sink

------------------------------------------------------------
-- Sinks
------------------------------------------------------------

/-
  What was written, how many more bytes are accepted up to
  the next fault, if there is one, how it strikes, and
  whether it does so only once; the faults that come later;
  and how every flush fails.
-/
structure Sink where
  written : Bytes := []
  room : Option Nat := none
  fault : Option IoError := none
  once : Bool := false
  later : List Sink.Fault := []
  flushFault : Option IoError := none
  deriving DecidableEq, Repr

namespace Sink

/- A sink that accepts everything. -/
def unlimited : Sink := {}

/- A sink that accepts nothing, and fails with an error. -/
def refusing (error : IoError) : Sink :=
  { room := some 0, fault := some error }

/- A sink on a device without any room. -/
def full : Sink :=
  refusing .deviceFull

/- All faults to come, the next one first. -/
def faults (sink : Sink) : List Fault :=
  match sink.room with
  | none => []
  | some room =>
      { room, error := sink.fault, once := sink.once } ::
        sink.later

/- A sink with other faults to come. -/
def withFaults (sink : Sink) : List Fault → Sink
  | [] =>
      { written := sink.written
        flushFault := sink.flushFault }
  | next :: later =>
      { written := sink.written
        room := some next.room
        fault := next.error
        once := next.once
        later := later
        flushFault := sink.flushFault }

/- A sink that has kept some more bytes. -/
def keep
    (sink : Sink)
    (bytes : Bytes) : Sink :=
  { sink with written := sink.written ++ bytes }

------------------------------------------------------------
-- Writing
------------------------------------------------------------

/-
  Write all bytes to a sink with so many faults to come.
  Those that fit are kept, and with more of them the attempt
  fails; behind an interruption the rest is tried again.
-/
def writeUnder
    (sink : Sink)
    (bytes : Bytes) :
    List Fault → Except IoError Unit × Sink
  | [] => (.ok (), sink.keep bytes)
  | next :: later =>
      let cut := sink.keep (bytes.take next.room)
      if bytes.length ≤ next.room then
        (.ok (),
          (sink.keep bytes).withFaults
            (next.spend bytes.length :: later))
      else if next.isInterruption then
        writeUnder (cut.withFaults later)
          (bytes.drop next.room) later
      else
        (.error next.failure,
          cut.withFaults (next.after later))

/- Write all bytes, up to a failure. -/
def writeAll
    (sink : Sink)
    (bytes : Bytes) : Except IoError Unit × Sink :=
  sink.writeUnder bytes sink.faults

/- Flush what was written. -/
def flush (sink : Sink) : Except IoError Unit :=
  match sink.flushFault with
  | none => .ok ()
  | some error => .error error

/- Write texts one after the other, up to a failure. -/
def writePieces
    (sink : Sink) : List String → Except IoError Unit × Sink
  | [] => (.ok (), sink)
  | piece :: rest =>
      match sink.writeAll (Utf8.encode piece) with
      | (.ok (), after) => writePieces after rest
      | (.error error, after) => (.error error, after)

/- Write texts and flush, unless writing fails. -/
def printPieces
    (sink : Sink)
    (pieces : List String) : Except IoError Unit × Sink :=
  match sink.writePieces pieces with
  | (.ok (), after) => (after.flush, after)
  | (.error error, after) => (.error error, after)

------------------------------------------------------------
-- Without Faults
------------------------------------------------------------

/- A sink with room keeps the bytes of all pieces. -/
theorem writePieces_of_room_eq_none
    (pieces : List String)
    {sink : Sink}
    (hRoom : sink.room = none) :
    sink.writePieces pieces =
      (.ok (), sink.keep (pieces.flatMap Utf8.encode)) := by
  induction pieces generalizing sink with
  | nil => simp [writePieces, keep]
  | cons piece rest ih =>
      have hWrite :
          sink.writeAll (Utf8.encode piece) =
            (.ok (), sink.keep (Utf8.encode piece)) := by
        simp [writeAll, writeUnder, faults, hRoom]
      have hKeep :
          (sink.keep (Utf8.encode piece)).room = none := by
        simpa [keep] using hRoom
      rw [writePieces, hWrite]
      simp only [ih hKeep]
      simp [keep]

end Sink

end NetPlugin
