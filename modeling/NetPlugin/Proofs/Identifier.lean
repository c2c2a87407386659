import NetPlugin.NetworkConfig
import NetPlugin.Environment

/-
  How identifiers that are not empty are refused.

  Every check has a fault for the empty text.  No check is
  given one: variables that are empty are missing, and a
  configuration without a name is refused as such.

  Main declarations:
    * `Identifier.Fault.IsEmptiness`
    * `Identifier.Fault.toError_ne_of_not_isEmptiness`
    * `Variable.check_eq_error`
    * `NetworkConfig.Refused` and `refused_of_check`
    * `NetworkConfig.exists_members_of_check`
-/

------------------------------------------------------------
-- Faults
------------------------------------------------------------

namespace NetPlugin

namespace Identifier

/- The faults of empty identifiers. -/
def Fault.IsEmptiness (fault : Fault) : Prop :=
  fault = .emptyContainerId ∨ fault = .emptyNetworkName ∨
    fault = .emptyInterfaceName

/- A refusal is the error of a fault. -/
theorem refuse_eq_error_iff
    (fault? : Option Fault)
    (e : PluginError) :
    refuse fault? = .error e ↔
      ∃ fault, fault? = some fault ∧ e = fault.toError := by
  cases fault? with
  | none => simp [refuse]
  | some fault => simp [refuse, eq_comm]

/- What is not empty is refused for its characters. -/
theorem fault_of_containerId
    {id : String}
    {fault : Fault}
    (hSet : id ≠ "")
    (hFault : containerIdFault? id = some fault) :
    fault = .badContainerId id := by
  unfold containerIdFault? at hFault
  rw [if_neg hSet] at hFault
  split at hFault
  · cases hFault
  · exact (Option.some.inj hFault).symm

theorem fault_of_networkName
    {name : String}
    {fault : Fault}
    (hSet : name ≠ "")
    (hFault : networkNameFault? name = some fault) :
    fault = .badNetworkName name := by
  unfold networkNameFault? at hFault
  rw [if_neg hSet] at hFault
  split at hFault
  · cases hFault
  · exact (Option.some.inj hFault).symm

theorem fault_of_interfaceName
    {name : String}
    {fault : Fault}
    (hSet : name ≠ "")
    (hFault : interfaceNameFault? name = some fault) :
    fault = .longInterfaceName ∨
      fault = .dottedInterfaceName ∨
      fault = .badInterfaceName := by
  unfold interfaceNameFault? at hFault
  rw [if_neg hSet] at hFault
  split at hFault
  · exact Or.inl (Option.some.inj hFault).symm
  · split at hFault
    · exact Or.inr (Or.inl (Option.some.inj hFault).symm)
    · split at hFault
      · exact Or.inr (Or.inr (Option.some.inj hFault).symm)
      · cases hFault

/- Emptiness is reported in words of its own. -/
theorem Fault.toError_ne_of_not_isEmptiness
    {fault empty : Fault}
    (hFault : ¬ fault.IsEmptiness)
    (hEmpty : empty.IsEmptiness) :
    fault.toError ≠ empty.toError := by
  unfold IsEmptiness at hFault
  rcases hEmpty with rfl | rfl | rfl <;>
    cases fault <;> simp_all [toError]

end Identifier

------------------------------------------------------------
-- Variables
------------------------------------------------------------

/-
  A variable that is set is refused for its characters,
  and always as an invalid environment.
-/
theorem Variable.check_eq_error
    {v : Variable}
    {value : String}
    {e : PluginError}
    (hSet : value ≠ "")
    (hCheck : v.check value = .error e) :
    e.code = .invalidEnvironment ∧
      ∃ fault : Identifier.Fault,
        ¬ fault.IsEmptiness ∧ e = fault.toError := by
  cases v with
  | containerId =>
      rcases (Identifier.refuse_eq_error_iff _ _).1 hCheck
        with ⟨fault, hFault, hError⟩
      have hBad :=
        Identifier.fault_of_containerId hSet hFault
      rw [hError, hBad]
      refine ⟨rfl, _, ?_, rfl⟩
      simp [Identifier.Fault.IsEmptiness]
  | ifName =>
      rcases (Identifier.refuse_eq_error_iff _ _).1 hCheck
        with ⟨fault, hFault, hError⟩
      have hBad :=
        Identifier.fault_of_interfaceName hSet hFault
      rw [hError]
      refine ⟨?_, fault, ?_, rfl⟩
      · rcases hBad with rfl | rfl | rfl <;> rfl
      · rcases hBad with rfl | rfl | rfl <;>
          simp [Identifier.Fault.IsEmptiness]
  | _ => cases hCheck

------------------------------------------------------------
-- Configurations
------------------------------------------------------------

namespace NetworkConfig

/- The ways in which a configuration is refused. -/
inductive Refused
    (config : Bytes)
    (e : PluginError) : Prop
  | undecodable
      (fault : Fault)
      (hText : textOf config nameKey = .error fault)
      (hError : e = NetworkConfig.undecodable fault)
  | nameless
      (hText : textOf config nameKey = .ok "")
      (hError : e = NetworkConfig.nameless)
  | misnamed
      (name : String)
      (hText : textOf config nameKey = .ok name)
      (hSet : name ≠ "")
      (hName : ¬ Identifier.IsName name)
      (hError :
        e = (Identifier.Fault.badNetworkName name).toError)

theorem refused_of_check
    {config : Bytes}
    {e : PluginError}
    (hCheck : check config = .error e) :
    Refused config e := by
  unfold check at hCheck
  cases hText : textOf config nameKey with
  | error fault =>
      simp only [hText] at hCheck
      exact
        .undecodable fault hText
          (Except.error.inj hCheck).symm
  | ok name =>
      simp only [hText] at hCheck
      by_cases hSet : name = ""
      · rw [if_pos hSet] at hCheck
        rw [hSet] at hText
        exact
          .nameless hText (Except.error.inj hCheck).symm
      · rw [if_neg hSet] at hCheck
        rcases (Identifier.refuse_eq_error_iff _ _).1 hCheck
          with ⟨fault, hFault, hError⟩
        have hBad :=
          Identifier.fault_of_networkName hSet hFault
        subst hBad
        apply Refused.misnamed name hText hSet ?_ hError
        intro hName
        unfold Identifier.networkNameFault? at hFault
        rw [if_neg hSet, if_pos hName] at hFault
        cases hFault

/- No configuration is refused like a variable. -/
theorem Refused.code_ne
    {config : Bytes}
    {e : PluginError}
    (hRefused : Refused config e) :
    e.code ≠ .invalidEnvironment := by
  intro hCode
  cases hRefused with
  | undecodable fault _ hError =>
      rw [hError] at hCode
      cases hCode
  | nameless _ hError =>
      rw [hError] at hCode
      cases hCode
  | misnamed name _ _ _ hError =>
      rw [hError] at hCode
      cases hCode

/- A configuration that has a name is an object. -/
theorem exists_members_of_check
    {config : Bytes}
    (hCheck : check config = .ok ()) :
    ∃ members,
      Json.Value.ofBytes config = .ok (.object members) := by
  unfold check textOf NetworkConfig.members at hCheck
  cases hValue : Json.Value.ofBytes config with
  | error e =>
      rw [hValue] at hCheck
      cases hCheck
  | ok value =>
      rw [hValue] at hCheck
      cases value with
      | object members => exact ⟨members, rfl⟩
      | _ => cases hCheck

end NetworkConfig

end NetPlugin
