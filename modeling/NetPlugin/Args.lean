import NetPlugin.ArgPairs
import NetPlugin.Environment

/-
  What a handler receives for one invocation.

  Key definitions include:
    * `Args`
    * `Args.ofEnvironment`
    * `Args.isOverridden`
    * `Args.pairs`
-/

------------------------------------------------------------
-- Arguments
------------------------------------------------------------

namespace NetPlugin

/- Six texts of the environment, and the configuration. -/
structure Args where
  containerId : String
  netns : String
  ifName : String
  args : String
  path : String
  netnsOverride : String
  config : Bytes
  deriving DecidableEq, Repr

namespace Args

/- The arguments of an environment, copied as they are. -/
def ofEnvironment
    (env : Environment)
    (config : Bytes) : Args where
  containerId := env .containerId
  netns := env .netns
  ifName := env .ifName
  args := env .args
  path := env .path
  netnsOverride := env .netnsOverride
  config := config

/- Whether a text is TRUE but for the case of its letters. -/
def isTrue (text : String) : Bool :=
  text.toList.map Char.toUpper == ['T', 'R', 'U', 'E']

/- Whether the check of the namespace is switched off. -/
def isOverridden (args : Args) : Bool :=
  isTrue args.netnsOverride || args.netnsOverride == "1"

/- The pairs that the runtime passes through. -/
def pairs
    (args : Args) :
    Except PluginError (List (String × String)) :=
  ArgPairs.parse args.args

end Args

end NetPlugin
