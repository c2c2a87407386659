import NetPlugin.Args
import NetPlugin.Log.Event

/-
  The handlers of a plugin, and how their failures are
  reported.

  A failure has a root and layers of context around it.  The
  outermost layer that is an error of the protocol is
  reported as it is; a failure without one is internal, and
  its message tells the whole chain.

  Key definitions include:
    * `HandlerError.Layer`
    * `HandlerError`
    * `HandlerError.outermost?`
    * `HandlerError.chain`
    * `HandlerError.classify`
    * `HandlerError.warnings`
    * `Handler`
    * `Handlers`
-/

------------------------------------------------------------
-- Failures of Handlers
------------------------------------------------------------

namespace NetPlugin

/- A plain message or an error of the protocol. -/
inductive HandlerError.Layer where
  | message (text : String)
  | plugin (error : PluginError)
  deriving DecidableEq, Repr

namespace HandlerError.Layer

/- The text of a layer. -/
def text : Layer → String
  | .message text => text
  | .plugin error => error.text

/- The error of the protocol that a layer is. -/
def error? : Layer → Option PluginError
  | .message _ => none
  | .plugin error => some error

end HandlerError.Layer

/-
  A root, which may have a chain of sources below it, or a
  layer of context around another failure.
-/
inductive HandlerError where
  | root
      (layer : HandlerError.Layer)
      (sources : List HandlerError.Layer)
  | context
      (layer : HandlerError.Layer)
      (inner : HandlerError)
  deriving DecidableEq, Repr

namespace HandlerError

/- A failure that is only a message. -/
def ofText (text : String) : HandlerError :=
  .root (.message text) []

/-
  The outermost layer that is an error of the protocol.
  Sources are not layers.
-/
def outermost? : HandlerError → Option PluginError
  | .root layer _ => layer.error?
  | .context layer inner =>
      match layer.error? with
      | some error => some error
      | none => inner.outermost?

/- The texts from the outermost layer to the last source. -/
def chain : HandlerError → List String
  | .root layer sources =>
      layer.text :: sources.map Layer.text
  | .context layer inner => layer.text :: inner.chain

/- The whole chain as one message. -/
def message (e : HandlerError) : String :=
  ": ".intercalate e.chain

/- The error that is reported for a failure. -/
def classify (e : HandlerError) : PluginError :=
  match e.outermost? with
  | some error => error
  | none => .internal e.message

/- A failure that is not of the protocol is logged. -/
def warnings (e : HandlerError) : List Log.Event :=
  match e.outermost? with
  | some _ => []
  | none => [.handlerFailed e.message]

/- A message around a failure does not hide its error. -/
theorem outermost?_context_message
    (text : String)
    (e : HandlerError) :
    (context (.message text) e).outermost? =
      e.outermost? := rfl

end HandlerError

------------------------------------------------------------
-- Handlers
------------------------------------------------------------

/-
  What a handler answers: its result, the standard output
  after it wrote to it, and what it reported.
-/
structure Reply where
  result : Except HandlerError Unit
  stdout : Sink
  events : List Log.Event

/- A handler is given its arguments and the output. -/
abbrev Handler :=
  Args → Sink → Reply

/- A handler that neither writes nor reports anything. -/
def Handler.silent
    (result : Args → Except HandlerError Unit) : Handler :=
  fun args stdout => ⟨result args, stdout, []⟩

/- The handlers of a plugin; a command may have none. -/
structure Handlers where
  add : Option Handler := none
  check : Option Handler := none
  del : Option Handler := none
  gc : Option Handler := none

namespace Handlers

/- The handler of a command. -/
def handler? (handlers : Handlers) :
    Command → Option Handler
  | .add => handlers.add
  | .check => handlers.check
  | .del => handlers.del
  | .gc => handlers.gc
  | .version => none

/- The three handlers of plugins that know no GC. -/
def three (add check del : Handler) : Handlers :=
  { add := some add, check := some check, del := some del }

/- The truth of a setting, as descriptions show it. -/
def truth (set : Bool) : String :=
  if set then "true" else "false"

/- Which of the handlers are set, in words. -/
def description (handlers : Handlers) : String :=
  "PluginFuncs \x7b add: " ++ truth handlers.add.isSome ++
    ", check: " ++ truth handlers.check.isSome ++
    ", del: " ++ truth handlers.del.isSome ++
    ", gc: " ++ truth handlers.gc.isSome ++ " \x7d"

end Handlers

end NetPlugin
