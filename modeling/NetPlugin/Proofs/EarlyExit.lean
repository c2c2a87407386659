import NetPlugin.Proofs.HandlerGate
import NetPlugin.Proofs.Identifier

/-
  How an invocation fails before its handler.

  It fails for its variables, its input, its configuration
  or its versions, or as its report cannot be written.  Each
  of these has one of five codes, and none of them is the
  fault of an empty identifier.

  Main declarations:
    * `Negotiation.Incompatible` and
      `Negotiation.Undecodable`
    * `Invocation.EarlyExit` and `EarlyExit.code_cases`
    * `Invocation.EarlyExit.ne_of_isEmptiness`
-/

------------------------------------------------------------
-- Failed Negotiations
------------------------------------------------------------

namespace NetPlugin

open Version

namespace Negotiation

/-
  How often a version was decoded before the one that is
  reconciled: above a floor this is the second one of the
  invocation.
-/
def decodingsBefore
    (command : Command)
    (decodings : Nat) : Nat :=
  if (floor? command).isSome then decodings + 1
  else decodings

section Failures

variable (c : Collaborators) (plugin : Capabilities)
variable (command : Command) (config : Bytes)
variable (decodings : Nat)

/- The versions are known, and do not go together. -/
inductive Incompatible (e : PluginError) : Prop
  | belowFloor
      (floor version : Token)
      (hFloor : floor? command = some floor)
      (hDecode :
        c.decode decodings config = .ok version)
      (hBelow : version.IsBelow floor)
      (hError :
        e =
          { code := .incompatibleVersion
            message :=
              "config version does not allow " ++
                command.name
            details := "" })
  | exhausted
      (floor version : Token)
      (hFloor : floor? command = some floor)
      (hDecode :
        c.decode decodings config = .ok version)
      (hAtLeast : version.IsAtLeast floor)
      (hBelow :
        ∀ entry ∈ plugin.supported, entry.IsBelow version)
      (hError :
        e =
          { code := .incompatibleVersion
            message :=
              "plugin version does not allow " ++
                command.name
            details := "" })
  | refused
      (version : Token)
      (refusal : Refusal)
      (hDecode :
        c.decode (decodingsBefore command decodings) config =
          .ok version)
      (hReconcile :
        c.reconcile version plugin = .error refusal)
      (hError :
        e =
          { code := .incompatibleVersion
            message := "incompatible CNI versions"
            details := refusal.details })

/- The error of a version that cannot be understood. -/
def IsVersionFailure
    (failure : VersionError)
    (e : PluginError) : Prop :=
  e =
    { code := .decodingFailure
      message := failure.message
      details := "" }

/-
  A version cannot be decoded, the first time or, above a
  floor, the second time; or it has no numbers to compare.
-/
inductive Undecodable (e : PluginError) : Prop
  | decoder
      (failure : VersionError)
      (hDecode :
        c.decode decodings config = .error failure)
      (hError : IsVersionFailure failure e)
  | decodedAgain
      (failure : VersionError)
      (hFloor : (floor? command).isSome)
      (hDecode :
        c.decode (decodings + 1) config =
          .error failure)
      (hError : IsVersionFailure failure e)
  | version
      (version : Token)
      (failure : VersionError)
      (hFloor : (floor? command).isSome)
      (hDecode :
        c.decode decodings config = .ok version)
      (hVersion : version.triple = .error failure)
      (hError : IsVersionFailure failure e)
  | entry
      (version entry : Token)
      (failure : VersionError)
      (hFloor : (floor? command).isSome)
      (hDecode :
        c.decode decodings config = .ok version)
      (hMem : entry ∈ plugin.supported)
      (hEntry : entry.triple = .error failure)
      (hError : IsVersionFailure failure e)

end Failures

variable {c : Collaborators} {plugin : Capabilities}
variable {command : Command} {config : Bytes}
variable {decodings : Nat} {session : Session}
variable {outcome : Outcome Unit} {e : PluginError}

theorem Incompatible.code
    (hIncompatible :
      Incompatible c plugin command config decodings e) :
    e.code = .incompatibleVersion := by
  cases hIncompatible with
  | belowFloor _ _ _ _ _ hError => rw [hError]
  | exhausted _ _ _ _ _ _ hError => rw [hError]
  | refused _ _ _ _ hError => rw [hError]

theorem IsVersionFailure.code
    {failure : VersionError}
    (hError : IsVersionFailure failure e) :
    e.code = .decodingFailure := by
  unfold IsVersionFailure at hError
  rw [hError]

theorem Undecodable.code
    (hUndecodable :
      Undecodable c plugin command config decodings e) :
    e.code = .decodingFailure := by
  cases hUndecodable with
  | decoder _ _ hError => exact hError.code
  | decodedAgain _ _ _ hError => exact hError.code
  | version _ _ _ _ _ hError => exact hError.code
  | entry _ _ _ _ _ _ _ hError => exact hError.code

/- An agreement fails in the decoder or the reconciler. -/
theorem AgreeCourse.error_cases
    (hCourse :
      AgreeCourse c plugin config session outcome)
    (hResult : outcome.result = .error e) :
    (∃ failure,
      c.decode session.decodings config = .error failure ∧
        IsVersionFailure failure e) ∨
    ∃ version refusal,
      c.decode session.decodings config = .ok version ∧
        c.reconcile version plugin = .error refusal ∧
        e = notReconciled refusal := by
  cases hCourse with
  | undecoded failure hDecode hOutcome =>
      rw [hOutcome] at hResult
      exact
        Or.inl
          ⟨failure, hDecode, (Except.error.inj hResult).symm⟩
  | refused version refusal hDecode hReconcile hOutcome =>
      rw [hOutcome] at hResult
      exact
        Or.inr
          ⟨version, refusal, hDecode, hReconcile,
            (Except.error.inj hResult).symm⟩
  | agreed version hDecode hReconcile hOutcome =>
      rw [hOutcome] at hResult
      cases hResult

/- A negotiation that fails does so in one of these ways. -/
theorem Course.error_cases
    (hCourse :
      Course c plugin command config session outcome)
    (hResult : outcome.result = .error e) :
    Incompatible c plugin command config session.decodings e ∨
      Undecodable c plugin command config session.decodings
        e := by
  cases hCourse with
  | unfloored hFloor hAgree =>
      have hBefore :
          decodingsBefore command session.decodings =
            session.decodings := by
        simp [decodingsBefore, hFloor]
      rcases hAgree.error_cases hResult with
        ⟨failure, hDecode, hError⟩ |
        ⟨version, refusal, hDecode, hReconcile, hError⟩
      · exact Or.inr (.decoder failure hDecode hError)
      · rw [← hBefore] at hDecode
        exact
          Or.inl
            (.refused version refusal hDecode hReconcile
              hError)
  | undecoded failure hFloor hDecode hOutcome =>
      rw [hOutcome] at hResult
      exact
        Or.inr
          (.decoder failure hDecode
            (Except.error.inj hResult).symm)
  | unnumbered version failure hFloor hDecode hVersion
      hOutcome =>
      rw [hOutcome] at hResult
      exact
        Or.inr
          (.version version failure hFloor hDecode hVersion
            (Except.error.inj hResult).symm)
  | belowFloor floor version hFloor hDecode hBelow
      hOutcome =>
      rw [hOutcome] at hResult
      exact
        Or.inl
          (.belowFloor floor version hFloor hDecode hBelow
            (Except.error.inj hResult).symm)
  | exhausted floor version hFloor hDecode hAtLeast
      hDecisive hOutcome =>
      rw [hOutcome] at hResult
      exact
        Or.inl
          (.exhausted floor version hFloor hDecode hAtLeast
            ((decisive?_eq_none_iff hAtLeast.isNumbered).1
              hDecisive)
            (Except.error.inj hResult).symm)
  | unscannable floor version candidate failure hFloor
      hDecode hAtLeast hDecisive hCandidate hOutcome =>
      rw [hOutcome] at hResult
      exact
        Or.inr
          (.entry version candidate failure
            (Option.isSome_of_eq_some hFloor) hDecode
            (List.mem_of_find?_eq_some hDecisive) hCandidate
            (Except.error.inj hResult).symm)
  | selected floor version candidate inner hFloor hDecode
      hAtLeast hDecisive hCandidate hAgree hOutcome =>
      have hSome : (floor? command).isSome :=
        Option.isSome_of_eq_some hFloor
      have hBefore :
          decodingsBefore command session.decodings =
            session.decodings + 1 := by
        simp [decodingsBefore, hSome]
      rw [hOutcome] at hResult
      rcases hAgree.error_cases hResult with
        ⟨failure, hAgain, hError⟩ |
        ⟨other, refusal, hAgain, hReconcile, hError⟩
      · exact
          Or.inr (.decodedAgain failure hSome hAgain hError)
      · rw [Session.countDecoding_decodings, ← hBefore]
          at hAgain
        exact
          Or.inl
            (.refused other refusal hAgain hReconcile hError)

end Negotiation

------------------------------------------------------------
-- Exits before the Handler
------------------------------------------------------------

namespace Invocation

section EarlyExits

variable (c : Collaborators) (env : Environment)
variable (plugin : Capabilities) (session : Session)

/- The ways in which an invocation fails without a call. -/
inductive EarlyExit (e : PluginError) : Prop
  | missing
      (v : Variable)
      (more : List Variable)
      (hAbsent : env.absent = v :: more)
      (hError : e = Environment.missing (v :: more))
  | invalid
      (v : Variable)
      (hFault : env.fault? v = some e)
  | unknown
      (hCommand : env.command? = none)
      (hError : e = Command.unknown (env .command))
  | unreadable
      (failure : IoError)
      (hRead : session.stdin.readToEnd.1 = .error failure)
      (hError : e = Step.unreadableInput failure)
  | unwritable
      (failure : IoError)
      (hCommand : env .command = Command.version.name)
      (hError : e = Step.unwritableOutput failure)
  | unusable
      (config : Bytes)
      (hRead : session.stdin.readToEnd.1 = .ok config)
      (hRefused : NetworkConfig.Refused config e)
  | incompatible
      (config : Bytes)
      (command : Command)
      (hRead : session.stdin.readToEnd.1 = .ok config)
      (hCommand : env .command = command.name)
      (hIncompatible :
        Negotiation.Incompatible c plugin command config
          session.decodings e)
  | undecodable
      (config : Bytes)
      (command : Command)
      (hRead : session.stdin.readToEnd.1 = .ok config)
      (hCommand : env .command = command.name)
      (hUndecodable :
        Negotiation.Undecodable c plugin command config
          session.decodings e)

variable {c env plugin session} {e : PluginError}

/- The versions of the configuration do not go together. -/
def IsIncompatible
    (c : Collaborators)
    (env : Environment)
    (plugin : Capabilities)
    (session : Session)
    (e : PluginError) : Prop :=
  ∃ config command,
    session.stdin.readToEnd.1 = .ok config ∧
      env .command = command.name ∧
      Negotiation.Incompatible c plugin command config
        session.decodings e

/-
  The name of the network cannot be read, or no version can
  be decoded.
-/
def IsUndecodable
    (c : Collaborators)
    (env : Environment)
    (plugin : Capabilities)
    (session : Session)
    (e : PluginError) : Prop :=
  ∃ config,
    session.stdin.readToEnd.1 = .ok config ∧
      ((∃ fault,
          NetworkConfig.textOf config "name" =
              .error fault ∧
            e =
              { code := .decodingFailure
                message :=
                  "error unmarshall network config: " ++
                    fault.message
                details := "" }) ∨
        ∃ command,
          env .command = command.name ∧
            Negotiation.Undecodable c plugin command config
              session.decodings e)

/- The code of an early exit tells of its cause. -/
theorem EarlyExit.code_cases
    (hExit : EarlyExit c env plugin session e) :
    e.code = .incompatibleVersion ∧
        IsIncompatible c env plugin session e ∨
      e.code = .decodingFailure ∧
        IsUndecodable c env plugin session e ∨
      e.code = .invalidEnvironment ∨
      e.code = .ioFailure ∨
      e.code = .invalidNetworkConfig := by
  cases hExit with
  | missing v more hAbsent hError =>
      rw [hError]
      simp [Environment.missing]
  | invalid v hFault =>
      rcases (Environment.fault?_eq_some_iff env v e).1 hFault
        with ⟨_, hSet, hCheck⟩
      simp [(Variable.check_eq_error hSet hCheck).1]
  | unknown hCommand hError =>
      rw [hError]
      simp [Command.unknown]
  | unreadable failure hRead hError =>
      rw [hError]
      simp [Step.unreadableInput]
  | unwritable failure hCommand hError =>
      rw [hError]
      simp [Step.unwritableOutput]
  | unusable config hRead hRefused =>
      cases hRefused with
      | undecodable fault hText hError =>
          refine Or.inr (Or.inl ⟨?_, config, hRead, ?_⟩)
          · rw [hError]
            rfl
          · exact Or.inl ⟨fault, hText, hError⟩
      | nameless hText hError =>
          rw [hError]
          simp [NetworkConfig.nameless]
      | misnamed name hText hSet hName hError =>
          rw [hError]
          simp [Identifier.Fault.toError]
  | incompatible config command hRead hCommand
      hIncompatible =>
      exact
        Or.inl
          ⟨hIncompatible.code, config, command, hRead,
            hCommand, hIncompatible⟩
  | undecodable config command hRead hCommand
      hUndecodable =>
      exact
        Or.inr
          (Or.inl
            ⟨hUndecodable.code, config, hRead,
              Or.inr ⟨command, hCommand, hUndecodable⟩⟩)

/- An early exit has one of five codes. -/
theorem EarlyExit.number_mem
    (hExit : EarlyExit c env plugin session e) :
    e.code.number ∈ [1, 4, 5, 6, 7] := by
  rcases hExit.code_cases with
    ⟨hCode, _⟩ | ⟨hCode, _⟩ | hCode | hCode | hCode <;>
    simp [hCode, ErrorCode.number]

theorem EarlyExit.isIncompatible
    (hExit : EarlyExit c env plugin session e)
    (hNumber : e.code.number = 1) :
    IsIncompatible c env plugin session e := by
  rcases hExit.code_cases with
    ⟨_, hIncompatible⟩ | ⟨hCode, _⟩ | hCode | hCode | hCode
  · exact hIncompatible
  all_goals simp [hCode, ErrorCode.number] at hNumber

theorem EarlyExit.isUndecodable
    (hExit : EarlyExit c env plugin session e)
    (hNumber : e.code.number = 6) :
    IsUndecodable c env plugin session e := by
  rcases hExit.code_cases with
    ⟨hCode, _⟩ | ⟨_, hUndecodable⟩ | hCode | hCode | hCode
  · simp [hCode, ErrorCode.number] at hNumber
  · exact hUndecodable
  all_goals simp [hCode, ErrorCode.number] at hNumber

/- A text that begins otherwise is another text. -/
theorem append_ne_of_not_prefix
    {first text : String}
    (hPrefix : ¬ first.toList <+: text.toList)
    (rest : String) :
    first ++ rest ≠ text := by
  intro hText
  apply hPrefix
  rw [← hText, String.toList_append]
  exact List.prefix_append _ _

/- Neither codes of versions nor of streams are of names. -/
theorem ne_of_code
    {empty : Identifier.Fault}
    (hEmpty : empty.IsEmptiness)
    (hCode :
      e.code = .incompatibleVersion ∨
        e.code = .decodingFailure ∨ e.code = .ioFailure) :
    e ≠ empty.toError := by
  rintro rfl
  rcases hEmpty with rfl | rfl | rfl <;>
    simp [Identifier.Fault.toError] at hCode

/- No early exit is the fault of an empty identifier. -/
theorem EarlyExit.ne_of_isEmptiness
    (hExit : EarlyExit c env plugin session e)
    {empty : Identifier.Fault}
    (hEmpty : empty.IsEmptiness) :
    e ≠ empty.toError := by
  cases hExit with
  | missing v more hAbsent hError =>
      intro hEmptiness
      have hMessage := congrArg PluginError.message hEmptiness
      rw [hError, Environment.missing, String.append_assoc]
        at hMessage
      rcases hEmpty with rfl | rfl | rfl <;>
        exact
          append_ne_of_not_prefix (by decide +kernel) _
            hMessage
  | invalid v hFault =>
      rcases (Environment.fault?_eq_some_iff env v e).1 hFault
        with ⟨_, hSet, hCheck⟩
      rcases (Variable.check_eq_error hSet hCheck).2 with
        ⟨fault, hNot, hError⟩
      rw [hError]
      exact
        Identifier.Fault.toError_ne_of_not_isEmptiness hNot
          hEmpty
  | unknown hCommand hError =>
      intro hEmptiness
      have hMessage := congrArg PluginError.message hEmptiness
      rw [hError, Command.unknown] at hMessage
      rcases hEmpty with rfl | rfl | rfl <;>
        exact
          append_ne_of_not_prefix (by decide +kernel) _
            hMessage
  | unreadable failure hRead hError =>
      apply ne_of_code hEmpty
      simp [hError, Step.unreadableInput]
  | unwritable failure hCommand hError =>
      apply ne_of_code hEmpty
      simp [hError, Step.unwritableOutput]
  | unusable config hRead hRefused =>
      cases hRefused with
      | undecodable fault hText hError =>
          apply ne_of_code hEmpty
          simp [hError, NetworkConfig.undecodable]
      | nameless hText hError =>
          rw [hError]
          rcases hEmpty with rfl | rfl | rfl <;>
            decide +kernel
      | misnamed name hText hSet hName hError =>
          rw [hError]
          apply
            Identifier.Fault.toError_ne_of_not_isEmptiness ?_
              hEmpty
          simp [Identifier.Fault.IsEmptiness]
  | incompatible config command hRead hCommand
      hIncompatible =>
      exact ne_of_code hEmpty (Or.inl hIncompatible.code)
  | undecodable config command hRead hCommand
      hUndecodable =>
      exact
        ne_of_code hEmpty (Or.inr (Or.inl hUndecodable.code))

/- A request that is not resolved is an early exit. -/
theorem earlyExit_of_resolve
    {trace : Trace}
    {after : Session}
    (hResolve :
      Request.resolve env session =
        ⟨.error e, trace, after⟩) :
    EarlyExit c env plugin session e := by
  have hCourse := Request.resolve_course env session
  rw [hResolve] at hCourse
  cases hCourse with
  | invalid v failure hFault hOutcome =>
      cases hOutcome
      exact .invalid v hFault
  | missing v more hAbsent hOutcome =>
      cases hOutcome
      exact .missing v more hAbsent rfl
  | reportAsked hAccepted hCommand hOutcome =>
      cases hOutcome
  | unreadable failure hReads hRead hOutcome =>
      cases hOutcome
      exact .unreadable failure hRead rfl
  | unusable config failure hReads hRead hCheck hOutcome =>
      cases hOutcome
      exact
        .unusable config hRead
          (NetworkConfig.refused_of_check hCheck)
  | resolved config hReads hRead hCheck hOutcome =>
      cases hOutcome

/- A report that fails could not be written. -/
theorem print_result_eq_error
    {pieces : List String}
    (hError :
      (Step.print pieces session).result = .error e) :
    ∃ failure, e = Step.unwritableOutput failure := by
  have hResult :
      (Step.print pieces session).result =
        (session.stdout.printPieces pieces).1.mapError
          Step.unwritableOutput := rfl
  rw [hResult] at hError
  cases hPrint : (session.stdout.printPieces pieces).1 with
  | error failure =>
      rw [hPrint] at hError
      exact ⟨failure, (Except.error.inj hError).symm⟩
  | ok printed =>
      rw [hPrint] at hError
      cases hError

end EarlyExits

end Invocation

end NetPlugin
