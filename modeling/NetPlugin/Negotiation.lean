import NetPlugin.Netns.Identity
import NetPlugin.NetworkConfig
import NetPlugin.Session
import NetPlugin.Version.Support

/-
  Negotiating the protocol version between a configuration
  and a plugin.

  Key definitions include:
    * `Collaborators`
    * `Negotiation.floor?`
    * `Negotiation.decode`
    * `Negotiation.agree`
    * `Negotiation.scan`
    * `Negotiation.agreeAbove`
    * `Negotiation.negotiate`
-/

------------------------------------------------------------
-- Collaborators
------------------------------------------------------------

namespace NetPlugin

open Version

/-
  What an invocation relies on.  The decoder is told how
  often it was used before, as its answers may change from
  one use to the next.
-/
structure Collaborators where
  decode : Nat → Bytes → Except VersionError Token :=
    fun _ config => NetworkConfig.version config
  reconcile :
    Token → Capabilities → Except Refusal Unit :=
      Version.reconcile
  namespaces : NamespaceQuery

/- In descriptions it is not told what is relied on. -/
def Collaborators.description (_ : Collaborators) : String :=
  "Dispatcher \x7b .. \x7d"

namespace Negotiation

------------------------------------------------------------
-- Failures
------------------------------------------------------------

/- A version that cannot be decoded or compared. -/
def undecodable (e : VersionError) : PluginError :=
  { code := .decodingFailure, message := e.message }

/- A version that is not compatible. -/
def incompatible (message : String) : PluginError :=
  { code := .incompatibleVersion, message }

/- The configuration is older than the command. -/
def configTooOld (command : Command) : PluginError :=
  incompatible
    ("config version does not allow " ++ command.name)

/- The plugin supports nothing as new as is needed. -/
def pluginTooOld (command : Command) : PluginError :=
  incompatible
    ("plugin version does not allow " ++ command.name)

/- The reconciler refused. -/
def notReconciled (e : Refusal) : PluginError :=
  { code := .incompatibleVersion
    message := "incompatible CNI versions"
    details := e.details }

------------------------------------------------------------
-- Agreement
------------------------------------------------------------

/- Decode the version of a configuration. -/
def decode
    (c : Collaborators)
    (config : Bytes) : Step Token := fun session =>
  ⟨(c.decode session.decodings config).mapError undecodable,
    [.decoded config],
    { session with decodings := session.decodings + 1 }⟩

/- Decode the version and have it reconciled. -/
def agree
    (c : Collaborators)
    (plugin : Capabilities)
    (config : Bytes) : Step Unit := do
  let version ← decode c config
  Step.observe (.reconciled version)
  match c.reconcile version plugin with
  | .ok () => pure ()
  | .error e => do
      Step.log (.versionRefused version)
      Step.fail (notReconciled e)

------------------------------------------------------------
-- Agreement above a Floor
------------------------------------------------------------

/- The version from which on a command exists, if any. -/
def floor? : Command → Option Token
  | .check => some Version.checkFloor
  | .gc => some Version.gcFloor
  | _ => none

/-
  The first supported version at or above the given one.  A
  token before it that cannot be compared is an error.
-/
def scan
    (version : Token) :
    List Token → Except VersionError (Option Token)
  | [] => .ok none
  | candidate :: rest =>
      match candidate.atLeast version with
      | .error e => .error e
      | .ok true => .ok (some candidate)
      | .ok false => scan version rest

/- The configuration must be as new as the command. -/
def requireFloor
    (command : Command)
    (floor version : Token) : Except PluginError Unit :=
  match version.atLeast floor with
  | .error e => .error (undecodable e)
  | .ok false => .error (configTooOld command)
  | .ok true => .ok ()

/- The plugin must support a version that is new enough. -/
def select
    (command : Command)
    (plugin : Capabilities)
    (version : Token) : Except PluginError Token :=
  match scan version plugin.supported with
  | .error e => .error (undecodable e)
  | .ok none => .error (pluginTooOld command)
  | .ok (some selected) => .ok selected

/- Reach a floor, and then agree as for any other command. -/
def agreeAbove
    (c : Collaborators)
    (plugin : Capabilities)
    (command : Command)
    (floor : Token)
    (config : Bytes) : Step Unit := do
  let version ← decode c config
  Step.ofResult (requireFloor command floor version)
  let selected ←
    Step.ofResult (select command plugin version)
  Step.log (.versionSelected version selected command)
  agree c plugin config

/- What has to be negotiated for a command. -/
def negotiate
    (c : Collaborators)
    (plugin : Capabilities)
    (command : Command)
    (config : Bytes) : Step Unit :=
  match floor? command with
  | none => agree c plugin config
  | some floor => agreeAbove c plugin command floor config

end Negotiation

end NetPlugin
