import NetPlugin.Environment.Block
import NetPlugin.Netns.Descriptor
import NetPlugin.Noop

/-
  The program of the plugin that changes nothing.

  It gathers what a process is given, has the invocation
  computed, and writes the streams that result.

  Key definitions include:
    * `Main.gather`
    * `Main.namespaces`
    * `Main.finish`
-/

------------------------------------------------------------
-- Failures of the System
------------------------------------------------------------

namespace NetPlugin

namespace Main

/- How a failure with a number is told. -/
def numbered (code : UInt32) (details : String) : String :=
  details ++ " (os error " ++ Nat.repr code.toNat ++ ")"

/- How a failure of the system is told. -/
def failureText : IO.Error → String
  | .otherError code details => numbered code details
  | .resourceBusy code details => numbered code details
  | .resourceVanished code details => numbered code details
  | .hardwareFault code details => numbered code details
  | .illegalOperation code details => numbered code details
  | .noFileOrDirectory _ code details =>
      numbered code details
  | .invalidArgument _ code details => numbered code details
  | .permissionDenied _ code details => numbered code details
  | .resourceExhausted _ code details =>
      numbered code details
  | .inappropriateType _ code details =>
      numbered code details
  | .noSuchThing _ code details => numbered code details
  | e => toString e

/- The failure as streams have it. -/
def streamFailure (e : IO.Error) : IoError :=
  ⟨.other, some (failureText e)⟩

------------------------------------------------------------
-- What the Process Is Given
------------------------------------------------------------

/- The standard input, unless it must not be touched. -/
def readInput (env : Environment) : IO Source := do
  if Request.awaitsInput env then
    try
      let bytes ← (← IO.getStdin).readBinToEnd
      pure [.chunk bytes.toList]
    catch e =>
      pure [.failure (streamFailure e)]
  else pure []

/- The environment, the setting of the log, and the input. -/
def gather : IO Launch := do
  let bytes ← IO.FS.readBinFile "/proc/self/environ"
  let block : Environment.Block := bytes.toList
  let stdin ← readInput (.ofRaw block.raw)
  pure
    { environment := block.raw
      logSetting := block.value? "RUST_LOG"
      stdin }

------------------------------------------------------------
-- Namespaces
------------------------------------------------------------

/-
  Inspecting a path without opening it would tell the device
  and the number of its file.  As the library has no such
  call, the path is opened, and what the kernel tells about
  open files is read.  So there is no identity here of a file
  that may be inspected but not read; and which descriptor
  the file has is a guess, the least one that was free.
-/

/- Where the kernel tells about an open file. -/
def infoPath (descriptor : Nat) : String :=
  "/proc/self/fdinfo/" ++ Nat.repr descriptor

/- Where the kernel tells about mounts. -/
def mountPath : String := "/proc/self/mountinfo"

/- How many files may be open at once. -/
def descriptorLimit : Nat := 1024

/- The next file that is opened gets the least free number. -/
def nextDescriptor : IO Nat := do
  for descriptor in [0:descriptorLimit] do
    try
      let _ ← IO.FS.readFile (infoPath descriptor)
    catch _ =>
      return descriptor
  return descriptorLimit

/- The file that a path leads to, which is open meanwhile. -/
def inspect (path : String) : IO Netns.OpenFile := do
  let descriptor ← nextDescriptor
  let handle ← IO.FS.Handle.mk path .read
  let info ← IO.FS.readFile (infoPath descriptor)
  -- The handle is used again, so that it is open until here.
  let _ ← handle.isTty
  match Netns.OpenFile.ofInfo? info with
  | some file => pure file
  | none => throw (IO.userError "file without a number")

/- The file that a path leads to, or why there is none. -/
def lookup (path : String) :
    IO (Except String Netns.OpenFile) := do
  try
    let file ← inspect path
    pure (.ok file)
  catch e =>
    pure (.error (failureText e))

/- The mounts of the process. -/
def mounts : IO (List Netns.Mount) := do
  let table ← IO.FS.readBinFile mountPath
  pure (Netns.Mount.ofTable (Utf8.lossy table.toList))

/- The answer for the one path that may be asked for. -/
def namespaces (netns : String) : IO NamespaceQuery := do
  let mounts ← try mounts catch _ => pure []
  let own ← lookup Netns.ownPath
  let other ← lookup netns
  pure
    (.ofLookup fun path => do
      let reference ← own
      let file ←
        if path = Netns.ownPath then own else other
      return file.id mounts reference)

------------------------------------------------------------
-- What the Process Leaves
------------------------------------------------------------

/- Write bytes to a stream. -/
def emit
    (stream : IO.FS.Stream)
    (bytes : Bytes) : IO Unit := do
  stream.write ⟨bytes.toArray⟩
  stream.flush

/-
  Write what an execution leaves.  Where the standard output
  is refused, the execution is that on such an output.
-/
def finish (execute : Sink → Exit) : IO UInt32 := do
  let exit ←
    try
      emit (← IO.getStdout) (execute {}).stdout
      pure (execute {})
    catch e =>
      pure (execute (.refusing (streamFailure e)))
  try
    emit (← IO.getStderr) exit.stderr
  catch _ =>
    pure ()
  pure exit.status.toUInt32

end Main

end NetPlugin

/- One invocation of the plugin. -/
def main : IO UInt32 := do
  let launch ← NetPlugin.Main.gather
  let env := NetPlugin.Environment.ofRaw launch.environment
  let namespaces ← NetPlugin.Main.namespaces (env .netns)
  NetPlugin.Main.finish fun stdout =>
    NetPlugin.Execution.run namespaces
      { launch with stdout } NetPlugin.Noop.plugin
