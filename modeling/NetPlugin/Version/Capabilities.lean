import NetPlugin.Stream.Sink
import NetPlugin.Version.Form

/-
  The versions that a plugin supports, as the VERSION
  command reports them.

  Key definitions include:
    * `Capabilities`
    * `Capabilities.supporting`
    * `Capabilities.printed`
    * `Capabilities.encode`
    * `Capabilities.decode`
-/

------------------------------------------------------------
-- Capabilities
------------------------------------------------------------

namespace NetPlugin

open Version

/-
  The revision of the code that makes the report, and the
  supported versions in declaration order.
-/
structure Capabilities where
  revision : String
  supported : List Token
  deriving DecidableEq, Repr

namespace Capabilities

/- Support for some versions. -/
def supporting (versions : List Token) : Capabilities :=
  ⟨current.text, versions⟩

/- Support for every published version. -/
def all : Capabilities :=
  supporting published

/- Support for the versions before structured results. -/
def legacy : Capabilities :=
  supporting Version.legacy

------------------------------------------------------------
-- Writing
------------------------------------------------------------

/- The names of the members of the JSON form. -/
def revisionKey : String := "cniVersion"

def supportedKey : String := "supportedVersions"

/- The JSON form. -/
def toJson (plugin : Capabilities) : Json.Value :=
  .object
    [(revisionKey, .string plugin.revision),
      (supportedKey,
        .array (plugin.supported.map Token.toJson))]

/- The report: the compact form with a line feed. -/
def printed (plugin : Capabilities) : List String :=
  plugin.toJson.pieces .compact ++ ["\n"]

/- Write the report. -/
def encode
    (plugin : Capabilities)
    (sink : Sink) : Except IoError Unit × Sink :=
  sink.printPieces plugin.printed

------------------------------------------------------------
-- Reading
------------------------------------------------------------

/- The fields read so far. -/
structure Fields where
  revision : Option String := none
  supported : Option (List Token) := none

/- How the fields are read; each of them may be missing. -/
def record : Json.Record Fields Capabilities where
  title := "struct PluginCapabilities"
  start := {}
  fields :=
    [ { name := revisionKey
        seen := fun known => known.revision.isSome
        read := fun known => do
          let revision ← Json.readText
          pure { known with revision := some revision } },
      { name := supportedKey
        seen := fun known => known.supported.isSome
        read := fun known => do
          let supported ← Json.readList Token.read
          pure
            { known with supported := some supported } } ]
  finish := fun known =>
    .ok
      { revision := known.revision.getD ""
        supported := known.supported.getD [] }

/- The revision whose reports may leave out the list. -/
def listlessRevision : String := "0.2.0"

/-
  Complete what was read.  A report without a list is
  accepted only from the one revision that made such
  reports, and then means the legacy versions.
-/
def complete
    (plugin : Capabilities) :
    Except VersionError Capabilities :=
  if plugin.revision = "" then
    .error (.report "missing field cniVersion")
  else if plugin.supported = [] then
    if plugin.revision = listlessRevision then
      .ok { plugin with supported := Version.legacy }
    else .error (.report "missing field supportedVersions")
  else .ok plugin

/- Read a report. -/
def decode
    (bytes : Bytes) : Except VersionError Capabilities :=
  match Json.readDocument record.read bytes with
  | .error e => .error (.report e.message)
  | .ok plugin => plugin.complete

end Capabilities

end NetPlugin
