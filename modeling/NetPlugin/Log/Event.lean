import NetPlugin.Environment
import NetPlugin.Version.Token

/-
  What an invocation reports to its log.

  Key definitions include:
    * `Log.Level`
    * `Log.Origin`
    * `Log.Entry`
    * `Log.Event`
    * `Log.Event.entry`
    * `Log.Entry.line`
-/

------------------------------------------------------------
-- Entries
------------------------------------------------------------

namespace NetPlugin

namespace Log

/- How much an entry matters, from least to most. -/
inductive Level where
  | trace
  | debug
  | info
  | warn
  | error
  deriving DecidableEq, Repr

/- The name of a level. -/
def Level.name : Level → String
  | .trace => "TRACE"
  | .debug => "DEBUG"
  | .info => "INFO"
  | .warn => "WARN"
  | .error => "ERROR"

/- The rank of a level. -/
def Level.rank : Level → Nat
  | .trace => 0
  | .debug => 1
  | .info => 2
  | .warn => 3
  | .error => 4

/-
  Who reports: a module of this library, its entry points,
  or the plugin that uses it.
-/
inductive Origin where
  | arguments
  | negotiation
  | dispatch
  | skeleton
  | plugin
  deriving DecidableEq, Repr

/-
  The target of an origin, for filtering.  The one plugin
  with entries of its own is the one that changes nothing;
  the targets of others are left out.
-/
def Origin.target : Origin → String
  | .arguments => "cni_skel::args"
  | .negotiation => "cni_skel::negotiate"
  | .dispatch => "cni_skel::dispatch"
  | .skeleton => "cni_skel"
  | .plugin => "cni_noop"

/- A named value; some values are shown quoted. -/
structure Field where
  name : String
  value : String
  quoted : Bool := false
  deriving DecidableEq, Repr

/- One line of the log. -/
structure Entry where
  origin : Origin
  level : Level
  message : String
  fields : List Field
  deriving DecidableEq, Repr

/- The text of a field in a line. -/
def Field.text (field : Field) : String :=
  field.name ++ "=" ++
    if field.quoted then Text.quote field.value
    else field.value

/-
  The text of a line.  The time in front of it, and the
  blanks that bring the names of the levels to one length,
  are left out.
-/
def Entry.line (entry : Entry) : String :=
  " ".intercalate
    (entry.level.name :: entry.message ::
      entry.fields.map Field.text)

------------------------------------------------------------
-- Events
------------------------------------------------------------

/- What is worth an entry. -/
inductive Event where
  | variablesMissing
      (command : String) (missing : List Variable)
  | dispatching
      (command : Command) (containerId ifName : String)
  | versionRefused (config : Version.Token)
  | versionSelected
      (config plugin : Version.Token) (command : Command)
  | handlerFailed (message : String)
  | checkOverridden (netns : String)
  | printingInformation
  | errorNotWritten (message : String)
  | reported (level : Level) (message : String)
      (fields : List Field)
  deriving DecidableEq, Repr

namespace Event

/- The entry of an event. -/
def entry : Event → Entry
  | .variablesMissing command missing =>
      { origin := .arguments
        level := .debug
        message := "required variables missing"
        fields :=
          [ { name := "command", value := command },
            { name := "missing"
              value :=
                Text.quoteList
                  (missing.map Variable.name) } ] }
  | .dispatching command containerId ifName =>
      { origin := .dispatch
        level := .debug
        message := "dispatching"
        fields :=
          [ { name := "command", value := command.name },
            { name := "container_id", value := containerId },
            { name := "if_name", value := ifName } ] }
  | .versionRefused config =>
      { origin := .negotiation
        level := .debug
        message :=
          "configuration version not supported by plugin"
        fields :=
          [ { name := "config_version"
              value := config.text } ] }
  | .versionSelected config plugin command =>
      { origin := .negotiation
        level := .debug
        message := "selected plugin version"
        fields :=
          [ { name := "config_version"
              value := config.text },
            { name := "plugin_version"
              value := plugin.text },
            { name := "verb"
              value := command.name
              quoted := true } ] }
  | .handlerFailed message =>
      { origin := .negotiation
        level := .warn
        message := "handler failed"
        fields := [ { name := "error", value := message } ] }
  | .checkOverridden netns =>
      { origin := .dispatch
        level := .debug
        message := "namespace check overridden"
        fields := [ { name := "netns", value := netns } ] }
  | .printingInformation =>
      { origin := .dispatch
        level := .info
        message :=
          "no command given, printing plugin information"
        fields := [] }
  | .errorNotWritten message =>
      { origin := .skeleton
        level := .error
        message := "error writing error JSON to stdout"
        fields := [ { name := "error", value := message } ] }
  | .reported level message fields =>
      { origin := .plugin, level, message, fields }

end Event

end Log

end NetPlugin
