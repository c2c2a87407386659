import NetPlugin.Execution

/-
  A plugin that accepts every command and changes nothing.

  Its configuration may hold a text with which every
  command fails.

  Key definitions include:
    * `Noop.failureText`
    * `Noop.load`
    * `Noop.add`
    * `Noop.plugin`
-/

------------------------------------------------------------
-- Configuration
------------------------------------------------------------

namespace NetPlugin

namespace Noop

/- The key of the text with which commands fail. -/
def failureKey : String := "debugFail"

/- The one field that the plugin looks at. -/
structure Fields where
  failure : Option (Option String) := none

/- How the field is read; it may be missing or null. -/
def record : Json.Record Fields (Option String) where
  title := "struct NetConf"
  start := {}
  fields :=
    [ { name := failureKey
        seen := fun known => known.failure.isSome
        read := fun _ => do
          let failure ← Json.readOptionalText
          pure { failure := some failure } } ]
  finish := fun known => .ok (known.failure.getD none)

/- The text with which commands fail, if there is one. -/
def failureText
    (config : Bytes) :
    Except Json.ReadError (Option String) :=
  Json.readDocument record.read config

/- A failure with a message around it. -/
def failing
    {α : Type}
    (context message : String) : Except HandlerError α :=
  .error
    (.context (.message context) (.ofText message))

/- Fail as the configuration says. -/
def load (config : Bytes) : Except HandlerError Unit :=
  match failureText config with
  | .error e =>
      failing "parsing network configuration" e.message
  | .ok none => .ok ()
  | .ok (some text) =>
      if text = "" then .ok ()
      else .error (.ofText text)

------------------------------------------------------------
-- Handlers
------------------------------------------------------------

/- The fields with which a command is logged. -/
def containerField (args : Args) : Log.Field :=
  { name := "container_id", value := args.containerId }

def interfaceField (args : Args) : Log.Field :=
  { name := "if_name", value := args.ifName }

/- The smallest result of ADD. -/
def addResult (version : Version.Token) : Json.Value :=
  .object
    [("cniVersion", .string version.text),
      ("dns", .object [])]

/- Print the result of ADD. -/
def printResult
    (version : Version.Token)
    (stdout : Sink) : Except HandlerError Unit × Sink :=
  let (outcome, after) :=
    stdout.printPieces
      ((addResult version).pieces .compact ++ ["\n"])
  (match outcome with
    | .ok () => .ok ()
    | .error e => failing "writing result" e.text,
    after)

/- Answer ADD with a result of the declared version. -/
def add : Handler := fun args stdout =>
  match load args.config with
  | .error e => ⟨.error e, stdout, []⟩
  | .ok () =>
      match NetworkConfig.version args.config with
      | .error e =>
          ⟨failing "reading cniVersion" e.message, stdout,
            []⟩
      | .ok version =>
          let (result, after) := printResult version stdout
          ⟨result, after,
            [.reported .info "ADD"
              [containerField args, interfaceField args]]⟩

/- Accept a command and only log it. -/
def accept
    (name : String)
    (fields : Args → List Log.Field) : Handler :=
  fun args stdout =>
    match load args.config with
    | .error e => ⟨.error e, stdout, []⟩
    | .ok () =>
        ⟨.ok (), stdout,
          [.reported .debug name (fields args)]⟩

/- The handlers of all four commands. -/
def handlers : Handlers where
  add := some add
  check :=
    some (accept "CHECK" fun args => [containerField args])
  del := some (accept "DEL" fun args => [containerField args])
  gc := some (accept "GC" fun _ => [])

------------------------------------------------------------
-- The Plugin
------------------------------------------------------------

/- The plugin supports every published version. -/
def plugin : Plugin where
  handlers := handlers
  capabilities := .all
  about := "CNI noop plugin v0.1.0"

end Noop

end NetPlugin
