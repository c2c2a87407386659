import NetPlugin.Invocation
import NetPlugin.Log.Filter

/-
  A plugin as a process: its raw environment, its standard
  streams, its log, and its exit status.

  In the plain form a process reports the error of its one
  invocation on the standard output and exits with status
  one.  In the explicit form the error is left to the
  plugin, which has no logger either.

  Key definitions include:
    * `Launch`
    * `Exit`
    * `Plugin`
    * `Execution.explicit`
    * `Execution.report`
    * `Execution.plain`
-/

------------------------------------------------------------
-- Processes
------------------------------------------------------------

namespace NetPlugin

/- What a process is started with. -/
structure Launch where
  environment : RawEnvironment
  logSetting : Option Bytes := none
  stdin : Source := []
  stdout : Sink := {}

/- What a process leaves: the error stream is text. -/
structure Exit where
  status : Nat
  stdout : Bytes
  stderr : Bytes
  deriving DecidableEq, Repr

/- A plugin: its handlers, its versions, and its text. -/
structure Plugin where
  handlers : Handlers
  capabilities : Capabilities
  about : String

namespace Execution

/- The collaborators of a process on a host. -/
def collaborators
    (namespaces : NamespaceQuery) : Collaborators :=
  { namespaces }

/- The streams of a process. -/
def session (launch : Launch) : Session :=
  { stdin := launch.stdin, stdout := launch.stdout }

/- The one invocation of a process. -/
def invoke
    (namespaces : NamespaceQuery)
    (launch : Launch)
    (plugin : Plugin) : Outcome Unit :=
  Invocation.run (collaborators namespaces)
    (.ofRaw launch.environment) plugin.handlers
    plugin.capabilities plugin.about (session launch)

/- The bytes of lines. -/
def lineBytes (lines : List String) : Bytes :=
  lines.flatMap fun line => Utf8.encode line ++ [0x0A]

------------------------------------------------------------
-- The Explicit Form
------------------------------------------------------------

/- The exit of a process that handles its error itself. -/
def explicit (outcome : Outcome Unit) : Exit where
  status := 0
  stdout := outcome.session.stdout.written
  stderr := outcome.session.stderr.written

------------------------------------------------------------
-- The Plain Form
------------------------------------------------------------

/-
  Print an error as the result of an invocation.  That this
  fails can only be logged.
-/
def report
    (e : PluginError)
    (stdout : Sink) : List Log.Event × Sink :=
  match e.print stdout with
  | (.ok (), after) => ([], after)
  | (.error failure, after) =>
      ([.errorNotWritten failure.text], after)

/- The logger of a process, installed by its setting. -/
def logger (launch : Launch) : Log.Logger :=
  (Log.Logger.install {}
    (.ofSetting launch.logSetting)).2

/- The exit of a process that has its error reported. -/
def plain
    (logger : Log.Logger)
    (outcome : Outcome Unit) : Exit :=
  let stderr :=
    lineBytes (logger.lines outcome.trace.events) ++
      outcome.session.stderr.written
  match outcome.result with
  | .ok () => ⟨0, outcome.session.stdout.written, stderr⟩
  | .error e =>
      let (events, stdout) :=
        report e outcome.session.stdout
      ⟨1, stdout.written,
        stderr ++ lineBytes (logger.lines events)⟩

/- A whole process in the plain form. -/
def run
    (namespaces : NamespaceQuery)
    (launch : Launch)
    (plugin : Plugin) : Exit :=
  plain (logger launch) (invoke namespaces launch plugin)

end Execution

end NetPlugin
