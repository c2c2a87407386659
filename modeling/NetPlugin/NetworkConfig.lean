import NetPlugin.Identifier
import NetPlugin.Version.Token

/-
  What is read from a network configuration before any
  handler sees it: its version and its name.

  A configuration is a JSON object; the document null reads
  as an object without members, a repeated key has its last
  value, and a text that is absent or null reads as empty.

  Key definitions include:
    * `NetworkConfig.Fault`
    * `NetworkConfig.members`
    * `NetworkConfig.textOf`
    * `NetworkConfig.version`
    * `NetworkConfig.check`
-/

------------------------------------------------------------
-- Faults
------------------------------------------------------------

namespace NetPlugin

namespace NetworkConfig

/- Why a text cannot be read from a configuration. -/
inductive Fault where
  | unreadable (error : Json.ReadError)
  | notObject (value : Json.Value)
  | notText (key : String) (value : Json.Value)
  deriving Repr

/- The text of a fault. -/
def Fault.message : Fault → String
  | .unreadable error => error.message
  | .notObject value =>
      "expected an object, got " ++ value.shown
  | .notText key value =>
      key ++ " must be a string, got " ++ value.shown

------------------------------------------------------------
-- Members
------------------------------------------------------------

/- The members of a configuration. -/
def members
    (config : Bytes) : Except Fault Json.Members :=
  match Json.Value.ofBytes config with
  | .error e => .error (.unreadable e)
  | .ok .null => .ok []
  | .ok (.object members) => .ok members
  | .ok value => .error (.notObject value)

/- The text of a key among members. -/
def memberText
    (members : Json.Members)
    (key : String) : Except Fault String :=
  match members.last? key with
  | none => .ok ""
  | some .null => .ok ""
  | some (.string text) => .ok text
  | some value => .error (.notText key value)

/- The text of a key in a configuration. -/
def textOf
    (config : Bytes)
    (key : String) : Except Fault String :=
  match members config with
  | .error fault => .error fault
  | .ok members => memberText members key

------------------------------------------------------------
-- Version and Name
------------------------------------------------------------

/- The key of the version. -/
def versionKey : String := "cniVersion"

/- The key of the name. -/
def nameKey : String := "name"

/- The version that a configuration declares. -/
def version
    (config : Bytes) : Except VersionError Version.Token :=
  match textOf config versionKey with
  | .error fault => .error (.config fault.message)
  | .ok text =>
      .ok (if text = "" then Version.implicit else ⟨text⟩)

/- How an unreadable configuration is reported. -/
def undecodable (fault : Fault) : PluginError :=
  { code := .decodingFailure
    message :=
      "error unmarshall network config: " ++ fault.message }

/- How a configuration without a name is reported. -/
def nameless : PluginError :=
  { code := .invalidNetworkConfig
    message := "missing network name" }

/- Check that a configuration has a valid name. -/
def check (config : Bytes) : Except PluginError Unit :=
  match textOf config nameKey with
  | .error fault => .error (undecodable fault)
  | .ok name =>
      if name = "" then .error nameless
      else Identifier.checkNetworkName name

end NetworkConfig

end NetPlugin
