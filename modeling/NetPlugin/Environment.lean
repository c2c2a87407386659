import NetPlugin.Command
import NetPlugin.Identifier

/-
  The variables of an invocation, and which of them a
  command needs.

  A variable that is not set reads as empty.  Variables are
  surveyed in one fixed order: missing ones are gathered,
  an invalid one is reported at once.

  Key definitions include:
    * `Variable`
    * `Variable.isRequired`
    * `Variable.check`
    * `Environment`
    * `Environment.ofRaw`
    * `Environment.survey`
-/

------------------------------------------------------------
-- Variables
------------------------------------------------------------

namespace NetPlugin

/- The variables that are read for every invocation. -/
inductive Variable where
  | command
  | containerId
  | netns
  | ifName
  | args
  | path
  | netnsOverride
  deriving DecidableEq, Repr

namespace Variable

/- All variables, in the order in which they are reported. -/
def all : List Variable :=
  [.command, .containerId, .netns, .ifName, .args, .path,
    .netnsOverride]

/- The name in the environment of the process. -/
def name : Variable → String
  | .command => "CNI_COMMAND"
  | .containerId => "CNI_CONTAINERID"
  | .netns => "CNI_NETNS"
  | .ifName => "CNI_IFNAME"
  | .args => "CNI_ARGS"
  | .path => "CNI_PATH"
  | .netnsOverride => "CNI_NETNS_OVERRIDE"

/- The variable with a name, if there is one. -/
def ofName? (text : String) : Option Variable :=
  all.find? (·.name == text)

/- The commands that cannot do without a variable. -/
def neededBy : Variable → List Command
  | .command => [.add, .check, .del, .gc]
  | .containerId => [.add, .check, .del]
  | .netns => [.add, .check]
  | .ifName => [.add, .check, .del]
  | .args => []
  | .path => [.add, .check, .del, .gc]
  | .netnsOverride => []

/-
  Whether a variable must not be empty.  The command itself
  is required in any case, and nothing else is where it is
  not known.
-/
def isRequired
    (v : Variable)
    (command : Option Command) : Bool :=
  v = .command ||
    match command with
    | none => false
    | some c => v.neededBy.contains c

/- Check the value of a variable that is required. -/
def check
    (v : Variable)
    (value : String) : Except PluginError Unit :=
  match v with
  | .containerId => Identifier.checkContainerId value
  | .ifName => Identifier.checkInterfaceName value
  | _ => .ok ()

end Variable

------------------------------------------------------------
-- Environments
------------------------------------------------------------

/- The text of every variable. -/
abbrev Environment :=
  Variable → String

/- What a process is given: bytes, where a variable is set. -/
abbrev RawEnvironment :=
  Variable → Option Bytes

namespace Environment

/- An environment in which nothing is set. -/
def empty : Environment :=
  fun _ => ""

/- Set a variable; other names do not matter. -/
def set
    (env : Environment)
    (name value : String) : Environment :=
  match Variable.ofName? name with
  | none => env
  | some v => fun w => if w = v then value else env w

/- Remove a variable. -/
def unset
    (env : Environment)
    (name : String) : Environment :=
  env.set name ""

/- The environment with the given variables. -/
def ofPairs (pairs : List (String × String)) : Environment :=
  pairs.foldl
    (fun env pair => env.set pair.1 pair.2) empty

/-
  The texts of raw variables.  Bytes that are not UTF-8 are
  read lossily, so that a variable that is set to any bytes
  is never taken for a missing one.
-/
def ofRaw (raw : RawEnvironment) : Environment := fun v =>
  match raw v with
  | none => ""
  | some bytes => Utf8.lossy bytes

------------------------------------------------------------
-- Survey
------------------------------------------------------------

/-
  The required variables that are empty, in order; or the
  error of the first required one that is invalid.
-/
def survey
    (env : Environment)
    (command : Option Command) :
    List Variable → Except PluginError (List Variable)
  | [] => .ok []
  | v :: rest =>
      if v.isRequired command then
        if env v = "" then
          (survey env command rest).map (v :: ·)
        else
          match v.check (env v) with
          | .error e => .error e
          | .ok () => survey env command rest
      else survey env command rest

/- How missing variables are reported. -/
def missing (absent : List Variable) : PluginError :=
  { code := .invalidEnvironment
    message :=
      "required env variables [" ++
        ",".intercalate (absent.map Variable.name) ++
        "] missing" }

end Environment

end NetPlugin
