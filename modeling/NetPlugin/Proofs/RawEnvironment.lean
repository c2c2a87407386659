import NetPlugin.Proofs.ErrorOrigin
import NetPlugin.Proofs.IdentifierLanguages
import NetPlugin.Proofs.Resolution
import NetPlugin.Proofs.Text.Lossy
import NetPlugin.Text.Segments

/-
  Invocations whose variables hold any bytes.

  A variable that is set to some bytes is never empty, and
  therefore never missing.  An identifier that is no UTF-8
  is judged by the text that is shown for it.  No container
  id has a replacement character, so that it is refused as
  one; as an interface name it is subject to the rules of
  these names, where a replacement character has three
  bytes.

  Main declarations:
    * `RawEnvironment.IsUnset`
    * `Environment.ReadsRaw` and `ofRaw_readsRaw`
    * `Environment.missing_inj`
    * `Invocation.EarlyExit.environment_cases`
    * `Invocation.ReportsUnset` and `run_reportsUnset`
    * `Invocation.JudgesIfName` and `Invocation.JudgesRaw`
    * `Invocation.run_on_raw_environment`
-/

------------------------------------------------------------
-- Variables That Hold Bytes
------------------------------------------------------------

namespace NetPlugin

/- A variable that is not set, or is set to no bytes. -/
def RawEnvironment.IsUnset
    (raw : RawEnvironment)
    (v : Variable) : Prop :=
  raw v = none ∨ raw v = some []

namespace Environment

/-
  How the bytes of variables are read: as nothing where
  there are none, unchanged where they are UTF-8, and as
  what is shown for the one way to cut them otherwise.
-/
structure ReadsRaw
    (raw : RawEnvironment)
    (env : Environment) : Prop where
  eq_empty_iff : ∀ v, env v = "" ↔ raw.IsUnset v
  eq_text :
    ∀ v text, raw v = some (Utf8.encode text) → env v = text
  eq_shown :
    ∀ v bytes,
      raw v = some bytes →
        ∃ pieces,
          Utf8.Cuts bytes pieces ∧
            (∀ others,
              Utf8.Cuts bytes others → others = pieces) ∧
            env v = Utf8.shownText pieces

variable {raw : RawEnvironment} {v : Variable}

theorem ofRaw_of_eq_some
    {bytes : Bytes}
    (hBytes : raw v = some bytes) :
    ofRaw raw v = Utf8.lossy bytes := by
  rw [ofRaw, hBytes]

theorem ofRaw_of_cuts
    {bytes : Bytes}
    {pieces : List Utf8.Piece}
    (hBytes : raw v = some bytes)
    (hCuts : Utf8.Cuts bytes pieces) :
    ofRaw raw v = Utf8.shownText pieces := by
  rw [ofRaw_of_eq_some hBytes, Utf8.lossy_of_cuts hCuts]

theorem ofRaw_of_encode
    {text : String}
    (hText : raw v = some (Utf8.encode text)) :
    ofRaw raw v = text := by
  rw [ofRaw_of_eq_some hText, Utf8.lossy_encode]

/- No bytes are taken for none at all. -/
theorem ofRaw_eq_empty_iff :
    ofRaw raw v = "" ↔ raw.IsUnset v := by
  unfold RawEnvironment.IsUnset
  cases hRaw : raw v with
  | none => simp [ofRaw, hRaw]
  | some bytes =>
      rw [ofRaw_of_eq_some hRaw, Utf8.lossy_eq_empty_iff]
      simp

theorem ofRaw_readsRaw (raw : RawEnvironment) :
    ReadsRaw raw (ofRaw raw) where
  eq_empty_iff := fun _ => ofRaw_eq_empty_iff
  eq_text := fun _ _ => ofRaw_of_encode
  eq_shown := by
    intro v bytes hBytes
    rcases Utf8.exists_cuts bytes with ⟨pieces, hCuts⟩
    exact
      ⟨pieces, hCuts, fun _ hOther => hOther.unique hCuts,
        ofRaw_of_cuts hBytes hCuts⟩

end Environment

------------------------------------------------------------
-- Missing Variables
------------------------------------------------------------

namespace Variable

/- The variables that a list of names tells. -/
def listed (text : List Char) : List Variable :=
  (Text.segments ',' text).filterMap fun segment =>
    ofName? (String.ofList segment)

theorem ofName?_name (v : Variable) :
    ofName? v.name = some v := by
  cases v <;> decide

theorem comma_not_mem_name (v : Variable) :
    ',' ∉ v.name.toList := by
  cases v <;> decide

/- A list is told by the names in it. -/
theorem listed_joined (absent : List Variable) :
    listed
        (Text.joined ','
          (absent.map fun v => v.name.toList)) =
      absent := by
  cases absent with
  | nil => decide
  | cons first more =>
      have hSome :
          (first :: more).map (fun v => v.name.toList) ≠ [] :=
        List.cons_ne_nil _ _
      have hNot :
          ∀ piece ∈
              (first :: more).map fun v => v.name.toList,
            ',' ∉ piece := by
        rw [List.forall_mem_map]
        exact fun v _ => comma_not_mem_name v
      have hRead :
          ((fun segment => ofName? (String.ofList segment)) ∘
              fun v : Variable => v.name.toList) =
            some := by
        funext v
        rw [Function.comp_apply, String.ofList_toList,
          ofName?_name]
      rw [listed, Text.segments_joined hSome hNot,
        List.filterMap_map, hRead, List.filterMap_some]

end Variable

namespace Environment

theorem toList_intercalate_comma (texts : List String) :
    (",".intercalate texts).toList =
      Text.joined ',' (texts.map String.toList) := by
  induction texts with
  | nil => rfl
  | cons text rest ih =>
      cases rest with
      | nil => simp [Text.joined]
      | cons next more =>
          rw [String.intercalate_cons_cons,
            String.toList_append, String.toList_append, ih,
            List.append_assoc]
          rfl

/- The message tells which variables are missing. -/
theorem missing_inj
    {absent other : List Variable}
    (hSame : missing absent = missing other) :
    absent = other := by
  have hMessage :=
    congrArg String.toList (congrArg PluginError.message hSame)
  simp only [missing, String.toList_append,
    toList_intercalate_comma, List.map_map] at hMessage
  have hJoined :=
    List.append_cancel_left (List.append_cancel_right hMessage)
  rw [← Variable.listed_joined absent,
    ← Variable.listed_joined other]
  exact congrArg Variable.listed hJoined

end Environment

------------------------------------------------------------
-- Interface Names
------------------------------------------------------------

namespace Request

variable {env : Environment} {session : Session}

/- An interface name is refused for a rule that it breaks. -/
theorem isRefused_ifName_iff
    (hNeeds : Variable.ifName.Needs (env .command))
    (hSet : env .ifName ≠ "")
    (e : PluginError) :
    env.IsRefused .ifName e ↔
      ∃ rule,
        Identifier.IsFirstBroken (env .ifName) rule ∧
          e = rule.error := by
  unfold Environment.IsRefused
  rw [and_iff_right hNeeds, and_iff_right hSet]
  rfl

/- No variable is refused but the two identifiers. -/
theorem ifName_of_fault
    (hContainerId : ∀ e, ¬ env.IsRefused .containerId e)
    {v : Variable}
    {e : PluginError}
    (hFault : env.fault? v = some e) :
    v = .ifName := by
  apply Decidable.byContradiction
  intro hOther
  have hNotContainerId : v ≠ .containerId := by
    rintro rfl
    rw [env.fault?_eq_some_iff_isRefused] at hFault
    exact hContainerId e hFault
  rw [env.fault?_eq_none_of_ne hNotContainerId hOther] at hFault
  cases hFault

/- A name that breaks a rule is the end of a request. -/
theorem resolve_eq_of_isFirstBroken
    (hNeeds : Variable.ifName.Needs (env .command))
    (hSet : env .ifName ≠ "")
    (hContainerId : ∀ e, ¬ env.IsRefused .containerId e)
    {rule : Identifier.InterfaceRule}
    (hBroken : Identifier.IsFirstBroken (env .ifName) rule) :
    resolve env session =
      ⟨.error rule.error, [], session⟩ := by
  have hRefused :=
    (isRefused_ifName_iff hNeeds hSet _).2 ⟨rule, hBroken, rfl⟩
  rw [← env.fault?_eq_none_iff] at hContainerId
  rw [← env.fault?_eq_some_iff_isRefused] at hRefused
  apply resolve_eq_of_fault
  rw [env.findSome?_fault?, hContainerId, hRefused]
  rfl

end Request

------------------------------------------------------------
-- Errors of Environments
------------------------------------------------------------

namespace Invocation

/- An identifier is refused in words of its own. -/
theorem toError_ne_missing
    (fault : Identifier.Fault)
    (absent : List Variable) :
    fault.toError ≠ Environment.missing absent := by
  intro hSame
  have hHead :=
    congrArg (fun e => e.message.toList.head?) hSame
  cases fault <;>
    simp [Identifier.Fault.toError, Environment.missing]
      at hHead

theorem toError_ne_unknown
    (fault : Identifier.Fault)
    (text : String) :
    fault.toError ≠ Command.unknown text := by
  intro hSame
  have hHead :=
    congrArg (fun e => e.message.toList.head?) hSame
  cases fault <;>
    simp [Identifier.Fault.toError, Command.unknown] at hHead

/- The rules are reported in different words. -/
theorem error_inj
    {rule other : Identifier.InterfaceRule}
    (hSame : rule.error = other.error) :
    rule = other := by
  cases rule <;> cases other <;>
    first
      | rfl
      | exact
          absurd (congrArg PluginError.message hSame)
            (by decide)

section EarlyExits

variable {c : Collaborators} {env : Environment}
variable {plugin : Capabilities} {session : Session}
variable {e : PluginError}

/- What fails early for its environment, and how. -/
theorem EarlyExit.environment_cases
    (hExit : EarlyExit c env plugin session e)
    (hCode : e.code = .invalidEnvironment) :
    (∃ v fault,
        env.fault? v = some e ∧
          e = Identifier.Fault.toError fault) ∨
      e = Environment.missing env.absent ∨
      e = Command.unknown (env .command) := by
  cases hExit with
  | missing v more hAbsent hError =>
      rw [hAbsent]
      exact Or.inr (Or.inl hError)
  | invalid v hFault =>
      rcases (Environment.fault?_eq_some_iff env v e).1 hFault
        with ⟨_, hSet, hCheck⟩
      rcases (Variable.check_eq_error hSet hCheck).2 with
        ⟨fault, _, hError⟩
      exact Or.inl ⟨v, fault, hFault, hError⟩
  | unknown hCommand hError => exact Or.inr (Or.inr hError)
  | unreadable failure hRead hError =>
      rw [hError] at hCode
      cases hCode
  | unwritable failure hCommand hError =>
      rw [hError] at hCode
      cases hCode
  | unusable config hRead hRefused =>
      exact absurd hCode hRefused.code_ne
  | incompatible config command hRead hCommand
      hIncompatible =>
      rw [hIncompatible.code] at hCode
      cases hCode
  | undecodable config command hRead hCommand
      hUndecodable =>
      rw [hUndecodable.code] at hCode
      cases hCode

/- What is reported missing is what is missing. -/
theorem EarlyExit.absent_eq
    {absent : List Variable}
    (hExit :
      EarlyExit c env plugin session
        (Environment.missing absent)) :
    absent = env.absent := by
  rcases hExit.environment_cases rfl with
    ⟨_, fault, _, hFault⟩ | hMissing | hUnknown
  · exact absurd hFault.symm (toError_ne_missing fault absent)
  · exact Environment.missing_inj hMissing
  · exact
      absurd hUnknown.symm (Request.unknown_ne_missing _ absent)

/- What is reported of an interface name is so. -/
theorem EarlyExit.isFirstBroken
    (hNeeds : Variable.ifName.Needs (env .command))
    (hSet : env .ifName ≠ "")
    (hContainerId : ∀ e, ¬ env.IsRefused .containerId e)
    {rule : Identifier.InterfaceRule}
    (hExit :
      EarlyExit c env plugin session rule.error) :
    Identifier.IsFirstBroken (env .ifName) rule := by
  have hCode : rule.error.code = .invalidEnvironment := by
    cases rule <;> rfl
  rcases hExit.environment_cases hCode with
    ⟨v, _, hFault, _⟩ | hMissing | hUnknown
  · rw [Request.ifName_of_fault hContainerId hFault,
      env.fault?_eq_some_iff_isRefused,
      Request.isRefused_ifName_iff hNeeds hSet] at hFault
    rcases hFault with ⟨other, hBroken, hSame⟩
    rwa [error_inj hSame]
  · rw [← rule.toError_fault] at hMissing
    exact absurd hMissing (toError_ne_missing _ _)
  · rw [← rule.toError_fault] at hUnknown
    exact absurd hUnknown (toError_ne_unknown _ _)

theorem earlyExit_of_result
    (hResult :
      (Request.resolve env session).result = .error e) :
    EarlyExit c env plugin session e := by
  rcases hResolve : Request.resolve env session with
    ⟨result, trace, after⟩
  rw [hResolve] at hResult
  cases hResult
  exact earlyExit_of_resolve hResolve

end EarlyExits

------------------------------------------------------------
-- What Is Reported Missing
------------------------------------------------------------

/-
  What an invocation reports as missing is unset.  Handlers
  and those who answer for namespaces have errors of their
  own, and nothing is said of these.
-/
structure ReportsUnset
    (raw : RawEnvironment)
    (env : Environment)
    (request : Outcome Request)
    (outcome : Outcome Unit) : Prop where
  resolving :
    ∀ absent,
      request.result = .error (Variable.absence absent) →
        ∀ v,
          v ∈ absent ↔
            v.Needs (env .command) ∧ raw.IsUnset v
  running :
    outcome.trace.calls = [] → outcome.trace.queries = [] →
      ∀ absent,
        outcome.result = .error (Variable.absence absent) →
          ∀ v,
            v ∈ absent ↔
              v.Needs (env .command) ∧ raw.IsUnset v
  logged :
    ∀ command absent,
      .logged (.variablesMissing command absent) ∈
          request.trace →
        ∀ v ∈ absent, raw.IsUnset v

theorem run_reportsUnset
    (raw : RawEnvironment)
    (c : Collaborators)
    (handlers : Handlers)
    (plugin : Capabilities)
    (about : String)
    (session : Session) :
    ReportsUnset raw (.ofRaw raw)
      (Request.resolve (.ofRaw raw) session)
      (run c (.ofRaw raw) handlers plugin about session) := by
  have hAbsent :
      ∀ v,
        v ∈ (Environment.ofRaw raw).absent ↔
          v.Needs (Environment.ofRaw raw .command) ∧
            raw.IsUnset v := by
    intro v
    rw [Environment.mem_absent_iff, Environment.IsLacking,
      Environment.ofRaw_eq_empty_iff]
  constructor
  case resolving =>
    intro absent hResult
    have hExit :
        EarlyExit c (.ofRaw raw) plugin session
          (Environment.missing absent) :=
      earlyExit_of_result hResult
    rw [hExit.absent_eq]
    exact hAbsent
  case running =>
    intro hCalls hQueries absent hResult
    have hCourse :=
      run_course c (.ofRaw raw) handlers plugin about session
    rcases hCourse.error_cases hResult with
      ⟨failure, hFailed, _⟩ | ⟨answer, hAnswered, _⟩ |
      ⟨_, _, hExit⟩
    · exact absurd hCalls hFailed.calls_ne_nil
    · exact absurd hQueries hAnswered.queries_ne_nil
    · rw [hExit.absent_eq]
      exact hAbsent
  case logged =>
    intro command absent hLogged v hMem
    have hCourse :=
      Request.resolve_course (.ofRaw raw) session
    generalize Request.resolve (.ofRaw raw) session = outcome
      at hCourse hLogged
    cases hCourse with
    | missing w more hMissing hOutcome =>
        rw [hOutcome, List.mem_singleton] at hLogged
        cases hLogged
        rw [← hMissing, hAbsent] at hMem
        exact hMem.2
    | _ =>
        rename_i hOutcome
        rw [hOutcome] at hLogged
        cases hLogged

------------------------------------------------------------
-- How Identifiers Are Judged
------------------------------------------------------------

/-
  How the interface name of an invocation is judged, whose
  bytes consist of some pieces: by the rules, which are
  those of the text that the pieces are shown as.
-/
structure JudgesIfName
    (pieces : List Utf8.Piece)
    (session : Session)
    (request : Outcome Request)
    (outcome : Outcome Unit) : Prop where
  refused_iff :
    ∀ rule : Identifier.InterfaceRule,
      request.result = .error rule.error ↔
        Identifier.IsFirstBroken (Utf8.shownText pieces) rule
  fails :
    ∀ rule,
      Identifier.IsFirstBroken (Utf8.shownText pieces) rule →
        outcome = ⟨.error rule.error, [], session⟩
  tooLong_iff :
    Identifier.InterfaceRule.tooLong.IsBroken
        (Utf8.shownText pieces) ↔
      15 < Utf8.shownWidth pieces

/-
  How an invocation judges the bytes of identifiers.  What
  the other variables hold does not matter for a container
  id, and for an interface name only the container id does.
-/
structure JudgesRaw
    (raw : RawEnvironment)
    (session : Session)
    (request : Outcome Request)
    (outcome : Outcome Unit) : Prop where
  containerId :
    ∀ command ∈ ["ADD", "CHECK", "DEL"],
      raw .command = some (Utf8.encode command) →
      ∀ bytes pieces,
        raw .containerId = some bytes →
        Utf8.Cuts bytes pieces →
        (∀ text, bytes ≠ Utf8.encode text) →
          outcome =
            ⟨.error
                { code := .invalidEnvironment
                  message :=
                    "invalid characters in containerID"
                  details := Utf8.shownText pieces },
              [], session⟩
  ifName :
    ∀ command ∈ ["ADD", "CHECK", "DEL"],
      raw .command = some (Utf8.encode command) →
      ∀ bytes pieces,
        raw .ifName = some bytes → bytes ≠ [] →
        Utf8.Cuts bytes pieces →
        (raw.IsUnset .containerId ∨
            ∃ id,
              raw .containerId = some (Utf8.encode id) ∧
                Identifier.InNameLanguage id) →
          JudgesIfName pieces session request outcome

variable {raw : RawEnvironment} {command : String}

/- The commands that need both of the identifiers. -/
theorem needs_of_command
    (hCommand : command ∈ ["ADD", "CHECK", "DEL"])
    (hRaw : raw .command = some (Utf8.encode command)) :
    Variable.containerId.Needs
        (Environment.ofRaw raw .command) ∧
      Variable.ifName.Needs
        (Environment.ofRaw raw .command) ∧
      Environment.ofRaw raw .command ≠ "" := by
  rw [Environment.ofRaw_of_encode hRaw]
  refine ⟨hCommand, hCommand, ?_⟩
  rintro rfl
  simp at hCommand

/- A replacement character is in no name. -/
theorem not_inNameLanguage_lossy
    {bytes : Bytes}
    (hInvalid : ∀ text, bytes ≠ Utf8.encode text) :
    ¬ Identifier.InNameLanguage (Utf8.lossy bytes) := by
  intro hName
  have hClass :=
    hName.of_mem (Utf8.replacement_mem_lossy hInvalid)
  unfold Identifier.IsLetterOrDigit at hClass
  exact absurd hClass (by decide)

/- So what is no UTF-8 is no container id. -/
theorem resolve_eq_of_invalid_containerId
    (session : Session)
    (hCommand : command ∈ ["ADD", "CHECK", "DEL"])
    (hRaw : raw .command = some (Utf8.encode command))
    {bytes : Bytes}
    (hBytes : raw .containerId = some bytes)
    (hInvalid : ∀ text, bytes ≠ Utf8.encode text) :
    Request.resolve (.ofRaw raw) session =
      ⟨.error
          { code := .invalidEnvironment
            message := "invalid characters in containerID"
            details := Utf8.lossy bytes },
        [], session⟩ := by
  have hSet : Utf8.lossy bytes ≠ "" := by
    rw [ne_eq, Utf8.lossy_eq_empty_iff]
    exact hInvalid ""
  have hRefused :
      (Environment.ofRaw raw).IsRefused .containerId
        { code := .invalidEnvironment
          message := "invalid characters in containerID"
          details := Utf8.lossy bytes } := by
    unfold Environment.IsRefused
    rw [Environment.ofRaw_of_eq_some hBytes]
    exact
      ⟨(needs_of_command hCommand hRaw).1, hSet,
        not_inNameLanguage_lossy hInvalid, rfl⟩
  rw [← Environment.fault?_eq_some_iff_isRefused] at hRefused
  apply Request.resolve_eq_of_fault
  rw [Environment.findSome?_fault?, hRefused]
  rfl

/- A container id is not refused if it is a name. -/
theorem not_isRefused_containerId
    (hContainerId :
      raw.IsUnset .containerId ∨
        ∃ id,
          raw .containerId = some (Utf8.encode id) ∧
            Identifier.InNameLanguage id)
    (e : PluginError) :
    ¬ (Environment.ofRaw raw).IsRefused .containerId e := by
  rintro ⟨-, hSet, hNot, -⟩
  rcases hContainerId with hUnset | ⟨id, hId, hName⟩
  · exact hSet (Environment.ofRaw_eq_empty_iff.2 hUnset)
  · rw [Environment.ofRaw_of_encode hId] at hNot
    exact hNot hName

/- An interface name is judged as the text that is shown. -/
theorem judgesIfName_of_cuts
    (c : Collaborators)
    (handlers : Handlers)
    (plugin : Capabilities)
    (about : String)
    (session : Session)
    (hCommand : command ∈ ["ADD", "CHECK", "DEL"])
    (hRaw : raw .command = some (Utf8.encode command))
    {bytes : Bytes}
    {pieces : List Utf8.Piece}
    (hBytes : raw .ifName = some bytes)
    (hSome : bytes ≠ [])
    (hCuts : Utf8.Cuts bytes pieces)
    (hContainerId :
      ∀ e,
        ¬ (Environment.ofRaw raw).IsRefused .containerId e) :
    JudgesIfName pieces session
      (Request.resolve (.ofRaw raw) session)
      (run c (.ofRaw raw) handlers plugin about session) := by
  rcases needs_of_command hCommand hRaw with
    ⟨-, hNeeds, hNamed⟩
  have hSet : Environment.ofRaw raw .ifName ≠ "" := by
    rw [Environment.ofRaw_of_eq_some hBytes, ne_eq,
      Utf8.lossy_eq_empty_iff]
    exact hSome
  have hText := Environment.ofRaw_of_cuts hBytes hCuts
  constructor
  case refused_iff =>
    intro rule
    rw [← hText]
    constructor
    · intro hResult
      have hExit :
          EarlyExit c (.ofRaw raw) plugin session
            rule.error :=
        earlyExit_of_result hResult
      exact hExit.isFirstBroken hNeeds hSet hContainerId
    · intro hBroken
      rw [Request.resolve_eq_of_isFirstBroken hNeeds hSet
        hContainerId hBroken]
  case fails =>
    intro rule hBroken
    rw [← hText] at hBroken
    exact
      run_eq_of_resolve_error
        (Request.resolve_eq_of_isFirstBroken hNeeds hSet
          hContainerId hBroken)
        fun hAll => hNamed hAll.1
  case tooLong_iff =>
    rw [← Utf8.utf8ByteSize_shownText]
    exact Iff.rfl

/-
  An invocation on any bytes: how the variables are read,
  which of them are reported missing, and how identifiers
  are judged.
-/
theorem run_on_raw_environment
    (raw : RawEnvironment)
    (c : Collaborators)
    (handlers : Handlers)
    (plugin : Capabilities)
    (about : String)
    (session : Session) :
    Environment.ReadsRaw raw (.ofRaw raw) ∧
      ReportsUnset raw (.ofRaw raw)
        (Request.resolve (.ofRaw raw) session)
        (run c (.ofRaw raw) handlers plugin about session) ∧
      JudgesRaw raw session
        (Request.resolve (.ofRaw raw) session)
        (run c (.ofRaw raw) handlers plugin about
          session) := by
  refine
    ⟨Environment.ofRaw_readsRaw raw,
      run_reportsUnset raw c handlers plugin about session,
      ?_⟩
  constructor
  case containerId =>
    intro command hCommand hRaw bytes pieces hBytes hCuts
      hInvalid
    rw [← Utf8.lossy_of_cuts hCuts]
    exact
      run_eq_of_resolve_error
        (resolve_eq_of_invalid_containerId session hCommand
          hRaw hBytes hInvalid)
        fun hAll => (needs_of_command hCommand hRaw).2.2 hAll.1
  case ifName =>
    intro command hCommand hRaw bytes pieces hBytes hSome
      hCuts hContainerId
    exact
      judgesIfName_of_cuts c handlers plugin about session
        hCommand hRaw hBytes hSome hCuts
        (not_isRefused_containerId hContainerId)

end Invocation

end NetPlugin
