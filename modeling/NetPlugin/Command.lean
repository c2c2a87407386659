import NetPlugin.PluginError

/-
  The commands that a runtime gives to a plugin.

  Key definitions include:
    * `Command`
    * `Command.name`
    * `Command.ofName?`
    * `Command.parse`
-/

------------------------------------------------------------
-- Commands
------------------------------------------------------------

namespace NetPlugin

/- What a plugin is asked to do. -/
inductive Command where
  | add
  | check
  | del
  | gc
  | version
  deriving DecidableEq, Repr

namespace Command

/- All commands. -/
def all : List Command :=
  [.add, .check, .del, .gc, .version]

/- The name on the wire. -/
def name : Command → String
  | .add => "ADD"
  | .check => "CHECK"
  | .del => "DEL"
  | .gc => "GC"
  | .version => "VERSION"

/- The command with exactly this name, if there is one. -/
def ofName? (text : String) : Option Command :=
  all.find? (·.name == text)

/- How the name of no command is refused. -/
def unknown (text : String) : PluginError :=
  { code := .invalidEnvironment
    message := "unknown CNI_COMMAND: " ++ text }

/- The command with a name. -/
def parse (text : String) : Except PluginError Command :=
  match ofName? text with
  | some command => .ok command
  | none => .error (unknown text)

/- A command is found again by its name. -/
@[simp]
theorem ofName?_name (command : Command) :
    ofName? command.name = some command := by
  cases command <;> decide

/- Names tell commands apart. -/
theorem ofName?_eq_some_iff
    (text : String)
    (command : Command) :
    ofName? text = some command ↔ text = command.name := by
  constructor
  · intro hFound
    have hTest := List.find?_some hFound
    exact (by simpa using hTest : command.name = text).symm
  · rintro rfl
    exact ofName?_name command

/- No command has the empty name. -/
theorem ofName?_empty : ofName? "" = none := by
  decide

end Command

end NetPlugin
