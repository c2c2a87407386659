import NetPlugin.Negotiation
import NetPlugin.Request

/-
  One invocation of a plugin, from its environment to its
  outcome.

  The command is resolved, the version negotiated, the
  handler called, and for the commands that work on a
  namespace it is checked that this was not the plugin's
  own one.  Without a command, a plugin that has an about
  text introduces itself instead.

  Key definitions include:
    * `Invocation.checkNamespace`
    * `Invocation.serve`
    * `Invocation.introduce`
    * `Invocation.run`
-/

------------------------------------------------------------
-- The Check of the Namespace
------------------------------------------------------------

namespace NetPlugin

namespace Invocation

/- Refuse to have worked on the plugin's own namespace. -/
def checkNamespace
    (c : Collaborators)
    (args : Args) : Step Unit :=
  if args.isOverridden then
    Step.log (.checkOverridden args.netns)
  else do
    Step.observe (.asked args.netns)
    let isOwn ← Step.ofResult (c.namespaces args.netns)
    if isOwn then Step.fail Netns.ownNamespace
    else pure ()

/- Whether a command works on a namespace. -/
def entersNamespace : Command → Bool
  | .add => true
  | .del => true
  | _ => false

------------------------------------------------------------
-- Commands
------------------------------------------------------------

/- Call the handler of a command, if there is one. -/
def callIfSet
    (handlers : Handlers)
    (command : Command)
    (args : Args) : Step Unit :=
  match handlers.handler? command with
  | none => pure ()
  | some handler => Step.callHandler command handler args

/- Negotiate, call the handler, and check the namespace. -/
def perform
    (c : Collaborators)
    (handlers : Handlers)
    (plugin : Capabilities)
    (command : Command)
    (args : Args) : Step Unit := do
  Negotiation.negotiate c plugin command args.config
  callIfSet handlers command args
  if entersNamespace command then checkNamespace c args
  else pure ()

/- Carry a command out; VERSION only prints a report. -/
def serve
    (c : Collaborators)
    (handlers : Handlers)
    (plugin : Capabilities)
    (command : Command)
    (args : Args) : Step Unit :=
  if command = .version then Step.print plugin.printed
  else perform c handlers plugin command args

/- Log the command of a request and carry it out. -/
def fulfil
    (c : Collaborators)
    (handlers : Handlers)
    (plugin : Capabilities)
    (request : Request) : Step Unit := do
  let command ←
    Step.ofResult (Command.parse request.commandText)
  Step.log
    (.dispatching command request.args.containerId
      request.args.ifName)
  serve c handlers plugin command request.args

------------------------------------------------------------
-- Introduction
------------------------------------------------------------

/- The line that follows the about text. -/
def versionsLine (plugin : Capabilities) : List String :=
  ["CNI protocol versions supported: ",
    ", ".intercalate (plugin.supported.map (·.text)), "\n"]

/-
  Write the two lines of an introduction.  It is only help,
  so that failures to write it do not matter: a line that
  fails ends early, and the next one is tried all the same.
-/
def introduction
    (about : String)
    (plugin : Capabilities)
    (sink : Sink) : Sink :=
  let (_, afterFirst) := sink.writePieces [about, "\n"]
  let (_, afterSecond) :=
    afterFirst.writePieces (versionsLine plugin)
  afterSecond

/- Introduce the plugin on the standard error stream. -/
def introduce
    (about : String)
    (plugin : Capabilities) : Step Unit := do
  Step.log .printingInformation
  fun session =>
    ⟨.ok (), [],
      { session with
        stderr := introduction about plugin session.stderr }⟩

/- Whether a failure is answered by an introduction. -/
def wantsIntroduction
    (env : Environment)
    (about : String)
    (e : PluginError) : Bool :=
  e.hasCode .invalidEnvironment && env .command == "" &&
    about != ""

------------------------------------------------------------
-- Running
------------------------------------------------------------

/- One invocation. -/
def run
    (c : Collaborators)
    (env : Environment)
    (handlers : Handlers)
    (plugin : Capabilities)
    (about : String) : Step Unit := do
  match ← (Request.resolve env).attempt with
  | .ok request => fulfil c handlers plugin request
  | .error e =>
      if wantsIntroduction env about e then
        introduce about plugin
      else Step.fail e

end Invocation

end NetPlugin
