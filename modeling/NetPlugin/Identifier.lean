import NetPlugin.PluginError
import NetPlugin.Text.Blank

/-
  The names that an invocation carries: container ids,
  network names and interface names.

  Key definitions include:
    * `Identifier.IsName`
    * `Identifier.Fault`
    * `Identifier.checkContainerId`
    * `Identifier.checkNetworkName`
    * `Identifier.checkInterfaceName`
-/

------------------------------------------------------------
-- Names
------------------------------------------------------------

namespace NetPlugin

namespace Identifier

/- The letters and digits of ASCII. -/
def isNameStart (c : Char) : Bool :=
  c.isAlphanum

/- Letters, digits, underscore, dot and hyphen. -/
def isNameRest (c : Char) : Bool :=
  isNameStart c || c == '_' || c == '.' || c == '-'

/-
  A letter or digit, and then only characters of names up
  to the very end.
-/
def isNameText : List Char → Bool
  | [] => false
  | c :: rest => isNameStart c && rest.all isNameRest

/- Whether a text is a name. -/
def IsName (text : String) : Prop :=
  isNameText text.toList = true

instance (text : String) : Decidable (IsName text) := by
  unfold IsName
  infer_instance

------------------------------------------------------------
-- Faults
------------------------------------------------------------

/- Why an identifier is refused. -/
inductive Fault where
  | emptyContainerId
  | badContainerId (id : String)
  | emptyNetworkName
  | badNetworkName (name : String)
  | emptyInterfaceName
  | longInterfaceName
  | dottedInterfaceName
  | badInterfaceName
  deriving DecidableEq, Repr

/- The longest interface name, in bytes. -/
def interfaceNameLimit : Nat := 15

namespace Fault

/- The error that a refused identifier is reported as. -/
def toError : Fault → PluginError
  | .emptyContainerId =>
      { code := .unknownContainer
        message := "missing containerID" }
  | .badContainerId id =>
      { code := .invalidEnvironment
        message := "invalid characters in containerID"
        details := id }
  | .emptyNetworkName =>
      { code := .invalidNetworkConfig
        message := "missing network name:" }
  | .badNetworkName name =>
      { code := .invalidNetworkConfig
        message := "invalid characters found in network name"
        details := name }
  | .emptyInterfaceName =>
      { code := .invalidEnvironment
        message := "interface name is empty" }
  | .longInterfaceName =>
      { code := .invalidEnvironment
        message := "interface name is too long"
        details :=
          "interface name should be less than " ++
            Nat.repr (interfaceNameLimit + 1) ++
            " characters" }
  | .dottedInterfaceName =>
      { code := .invalidEnvironment
        message := "interface name is . or .." }
  | .badInterfaceName =>
      { code := .invalidEnvironment
        message :=
          "interface name contains / or : or " ++
            "whitespace characters" }

end Fault

------------------------------------------------------------
-- Checks
------------------------------------------------------------

/- The fault of a container id, if it has one. -/
def containerIdFault? (id : String) : Option Fault :=
  if id = "" then some .emptyContainerId
  else if IsName id then none
  else some (.badContainerId id)

/- The fault of a network name, if it has one. -/
def networkNameFault? (name : String) : Option Fault :=
  if name = "" then some .emptyNetworkName
  else if IsName name then none
  else some (.badNetworkName name)

/- The characters that interface names must not have. -/
def isBannedInInterface (c : Char) : Bool :=
  c == '/' || c == ':' || Text.isBlank c

/- The first fault of an interface name, if it has one. -/
def interfaceNameFault? (name : String) : Option Fault :=
  if name = "" then some .emptyInterfaceName
  else if interfaceNameLimit < (Utf8.encode name).length then
    some .longInterfaceName
  else if name = "." ∨ name = ".." then
    some .dottedInterfaceName
  else if name.toList.any isBannedInInterface then
    some .badInterfaceName
  else none

/- Succeed unless there is a fault. -/
def refuse : Option Fault → Except PluginError Unit
  | none => .ok ()
  | some fault => .error fault.toError

/- Check a container id. -/
def checkContainerId (id : String) : Except PluginError Unit :=
  refuse (containerIdFault? id)

/- Check a network name. -/
def checkNetworkName
    (name : String) : Except PluginError Unit :=
  refuse (networkNameFault? name)

/- Check the name of a network interface. -/
def checkInterfaceName
    (name : String) : Except PluginError Unit :=
  refuse (interfaceNameFault? name)

end Identifier

end NetPlugin
