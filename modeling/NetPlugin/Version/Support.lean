import NetPlugin.Version.Capabilities

/-
  Whether a plugin can serve a configuration's version.

  Key definitions include:
    * `Refusal`
    * `Refusal.details`
    * `Version.reconcileWith`
    * `Version.reconcile`
-/

------------------------------------------------------------
-- Refusals
------------------------------------------------------------

namespace NetPlugin

open Version

/- The version of a configuration and those of a plugin. -/
structure Refusal where
  config : Token
  supported : List Token
  deriving DecidableEq, Repr

/- Both in words, with every token quoted. -/
def Refusal.details (e : Refusal) : String :=
  "config is " ++ Text.quote e.config.text ++
    ", plugin supports [" ++
    " ".intercalate
      (e.supported.map fun token => Text.quote token.text) ++
    "]"

------------------------------------------------------------
-- Exact Reconciliation
------------------------------------------------------------

namespace Version

/- Accept only a token that is in the list as written. -/
def reconcileWith
    (config : Token)
    (supported : List Token) : Except Refusal Unit :=
  if config ∈ supported then .ok ()
  else .error ⟨config, supported⟩

/- Accept only a token that the plugin lists as written. -/
def reconcile
    (config : Token)
    (plugin : Capabilities) : Except Refusal Unit :=
  reconcileWith config plugin.supported

/- Acceptance is membership. -/
theorem reconcileWith_eq_ok_iff
    (config : Token)
    (supported : List Token) :
    reconcileWith config supported = .ok () ↔
      config ∈ supported := by
  unfold reconcileWith
  split <;> simp [*]

end Version

end NetPlugin
