import NetPlugin.Text.Quoted

/-
  Failures of decoding and comparing protocol versions.

  Key definitions include:
    * `Version.Part`
    * `VersionError`
    * `VersionError.message`
-/

------------------------------------------------------------
-- Failures
------------------------------------------------------------

namespace NetPlugin

/- The three numbers of a version. -/
inductive Version.Part where
  | major
  | minor
  | micro
  deriving DecidableEq, Repr

/- The name of a number. -/
def Version.Part.name : Version.Part → String
  | .major => "major"
  | .minor => "minor"
  | .micro => "micro"

/- Why a version is not known. -/
inductive VersionError where
  | tooManyParts (token : String)
  | invalidPart (part : Version.Part) (text : String)
  | config (reason : String)
  | report (reason : String)
  deriving DecidableEq, Repr

/- The text of a failure. -/
def VersionError.message : VersionError → String
  | .tooManyParts token =>
      "invalid version " ++ Text.quote token ++
        ": too many parts"
  | .invalidPart part text =>
      "failed to convert " ++ part.name ++
        " version part " ++ Text.quote text
  | .config reason =>
      "decoding version from network config: " ++ reason
  | .report reason =>
      "decoding version info: " ++ reason

end NetPlugin
