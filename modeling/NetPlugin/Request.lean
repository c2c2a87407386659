import NetPlugin.NetworkConfig
import NetPlugin.Session

/-
  The command and the arguments that an invocation is
  asked for, from its variables and its standard input.

  Key definitions include:
    * `Request`
    * `Request.readsInput`
    * `Request.awaitsInput`
    * `Request.config`
    * `Request.resolve`
-/

------------------------------------------------------------
-- Requests
------------------------------------------------------------

namespace NetPlugin

/- The text of the command, known or not, and the arguments. -/
structure Request where
  commandText : String
  args : Args
  deriving DecidableEq, Repr

namespace Request

/- Only the VERSION command has no configuration. -/
def readsInput (command : Option Command) : Bool :=
  command ≠ some .version

/- Read a configuration and check it. -/
def config (command : Option Command) : Step Bytes :=
  if readsInput command then do
    let bytes ← Step.readConfig
    Step.ofResult (NetworkConfig.check bytes)
    pure bytes
  else pure []

/- Report the variables that are missing. -/
def failMissing
    (commandText : String)
    (missing : List Variable) : Step Request := do
  Step.log (.variablesMissing commandText missing)
  Step.fail (Environment.missing missing)

/-
  Survey the variables, and read the configuration only
  when none of the required ones is missing or invalid.
-/
def resolve (env : Environment) : Step Request :=
  let commandText := env .command
  let command := Command.ofName? commandText
  match env.survey command Variable.all with
  | .error e => Step.fail e
  | .ok [] => do
      let bytes ← config command
      pure ⟨commandText, .ofEnvironment env bytes⟩
  | .ok (v :: more) => failMissing commandText (v :: more)

------------------------------------------------------------
-- When the Input Is Read
------------------------------------------------------------

/- Whether the variables are such that the input is read. -/
def awaitsInput (env : Environment) : Bool :=
  let command := Command.ofName? (env .command)
  match env.survey command Variable.all with
  | .error _ => false
  | .ok [] => readsInput command
  | .ok (_ :: _) => false

/- A request that awaits no input leaves the streams. -/
theorem resolve_session_of_not_awaitsInput
    {env : Environment}
    (hQuiet : awaitsInput env = false)
    (session : Session) :
    (resolve env session).session = session := by
  unfold awaitsInput at hQuiet
  unfold resolve
  dsimp only at hQuiet ⊢
  cases hSurvey :
      env.survey (Command.ofName? (env .command))
        Variable.all with
  | error e => rfl
  | ok missing =>
      rw [hSurvey] at hQuiet
      cases missing with
      | nil =>
          have hConfig :
              config (Command.ofName? (env .command)) =
                (pure [] : Step Bytes) := by
            unfold config
            rw [if_neg (by simpa using hQuiet)]
          rw [hConfig]
          rfl
      | cons v more => rfl

end Request

end NetPlugin
