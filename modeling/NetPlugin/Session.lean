import NetPlugin.Handler
import NetPlugin.Stream.Source

/-
  Steps of an invocation: computations that may fail, that
  read and write the standard streams, and that leave a
  trace of what they did.

  The trace of a step does not depend on what was done
  before it, so that the trace of two steps is the trace of
  the first one and then that of the second one.

  Key definitions include:
    * `Session`
    * `Observation`
    * `Outcome`
    * `Step`
    * `Step.fail`
    * `Step.attempt`
    * `Step.log`
    * `Step.readConfig`
    * `Step.callHandler`
-/

------------------------------------------------------------
-- Sessions
------------------------------------------------------------

namespace NetPlugin

/-
  What invocations share that follow one another: the
  streams, and how often a version was decoded so far.
-/
structure Session where
  stdin : Source := []
  stdout : Sink := {}
  stderr : Sink := {}
  decodings : Nat := 0

------------------------------------------------------------
-- Traces
------------------------------------------------------------

/- What an invocation did, besides reading and writing. -/
inductive Observation where
  | logged (event : Log.Event)
  | decoded (config : Bytes)
  | reconciled (config : Version.Token)
  | called (command : Command) (args : Args)
  | asked (netns : String)
  deriving DecidableEq, Repr

/- Observations in the order in which they were made. -/
abbrev Trace :=
  List Observation

namespace Observation

/- The event that was logged. -/
def event? : Observation → Option Log.Event
  | .logged event => some event
  | _ => none

/- The handler that was called, by its command. -/
def call? : Observation → Option (Command × Args)
  | .called command args => some (command, args)
  | _ => none

/- The path whose namespace was asked for. -/
def query? : Observation → Option String
  | .asked netns => some netns
  | _ => none

end Observation

namespace Trace

/- The events of a trace. -/
def events (trace : Trace) : List Log.Event :=
  trace.filterMap Observation.event?

/- The handler calls of a trace. -/
def calls (trace : Trace) : List (Command × Args) :=
  trace.filterMap Observation.call?

/- The questions to the namespace identity of a trace. -/
def queries (trace : Trace) : List String :=
  trace.filterMap Observation.query?

@[simp]
theorem events_append (first second : Trace) :
    Trace.events (first ++ second) =
      Trace.events first ++ Trace.events second :=
  List.filterMap_append

@[simp]
theorem calls_append (first second : Trace) :
    Trace.calls (first ++ second) =
      Trace.calls first ++ Trace.calls second :=
  List.filterMap_append

@[simp]
theorem queries_append (first second : Trace) :
    Trace.queries (first ++ second) =
      Trace.queries first ++ Trace.queries second :=
  List.filterMap_append

end Trace

------------------------------------------------------------
-- Steps
------------------------------------------------------------

/- The result of a step, its trace, and what it leaves. -/
structure Outcome (α : Type) where
  result : Except PluginError α
  trace : Trace
  session : Session

/- A computation on a session. -/
def Step (α : Type) : Type :=
  Session → Outcome α

namespace Step

variable {α β : Type}

/- Do nothing and answer with a value. -/
protected def pure (value : α) : Step α := fun session =>
  ⟨.ok value, [], session⟩

/- Two steps one after the other; a failure ends them. -/
protected def bind
    (first : Step α)
    (next : α → Step β) : Step β := fun session =>
  let before := first session
  match before.result with
  | .error e => ⟨.error e, before.trace, before.session⟩
  | .ok value =>
      let after := next value before.session
      { after with trace := before.trace ++ after.trace }

instance : Monad Step where
  pure := Step.pure
  bind := Step.bind

/- Fail with an error. -/
def fail (e : PluginError) : Step α := fun session =>
  ⟨.error e, [], session⟩

/- Answer with a result that is known already. -/
def ofResult (result : Except PluginError α) : Step α :=
  fun session => ⟨result, [], session⟩

/- Leave an observation. -/
def observe (observation : Observation) : Step Unit :=
  fun session => ⟨.ok (), [observation], session⟩

/- The result of a step as a value; it does not fail. -/
def attempt
    (step : Step α) : Step (Except PluginError α) :=
  fun session =>
    let outcome := step session
    ⟨.ok outcome.result, outcome.trace, outcome.session⟩

/- Log an event. -/
def log (event : Log.Event) : Step Unit :=
  observe (.logged event)

------------------------------------------------------------
-- Laws of Steps
------------------------------------------------------------

theorem pure_apply
    (value : α)
    (session : Session) :
    (pure value : Step α) session =
      ⟨.ok value, [], session⟩ := rfl

/- A failure of the first step is the failure of both. -/
theorem bind_of_error
    {first : Step α}
    {session : Session}
    {e : PluginError}
    (hResult : (first session).result = .error e)
    (next : α → Step β) :
    (first >>= next) session =
      ⟨.error e, (first session).trace,
        (first session).session⟩ := by
  show Step.bind first next session = _
  simp [Step.bind, hResult]

/- Behind a success the second step goes on. -/
theorem bind_of_ok
    {first : Step α}
    {session : Session}
    {value : α}
    (hResult : (first session).result = .ok value)
    (next : α → Step β) :
    (first >>= next) session =
      { next value (first session).session with
        trace :=
          (first session).trace ++
            (next value (first session).session).trace } := by
  show Step.bind first next session = _
  simp [Step.bind, hResult]

------------------------------------------------------------
-- Streams and Handlers
------------------------------------------------------------

/- How a failure to read the configuration is reported. -/
def unreadableInput (e : IoError) : PluginError :=
  { code := .ioFailure
    message := "error reading from stdin: " ++ e.text }

/- Read the standard input to its end. -/
def readConfig : Step Bytes := fun session =>
  let (outcome, rest) := session.stdin.readToEnd
  ⟨outcome.mapError unreadableInput, [],
    { session with stdin := rest }⟩

/- How a failure to write a report is reported. -/
def unwritableOutput (e : IoError) : PluginError :=
  { code := .ioFailure, message := e.text }

/- Print texts to the standard output. -/
def print (pieces : List String) : Step Unit :=
  fun session =>
    let (outcome, after) := session.stdout.printPieces pieces
    ⟨outcome.mapError unwritableOutput, [],
      { session with stdout := after }⟩

/- The observations of a handler's reply. -/
def replyTrace
    (command : Command)
    (args : Args)
    (reply : Reply) : Trace :=
  .called command args :: reply.events.map .logged

/- Call a handler, and report its failure as classified. -/
def callHandler
    (command : Command)
    (handler : Handler)
    (args : Args) : Step Unit := fun session =>
  let reply := handler args session.stdout
  let trace := replyTrace command args reply
  let after := { session with stdout := reply.stdout }
  match reply.result with
  | .ok () => ⟨.ok (), trace, after⟩
  | .error e =>
      ⟨.error e.classify,
        trace ++ e.warnings.map .logged, after⟩

end Step

end NetPlugin
