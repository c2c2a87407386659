import NetPlugin.Proofs.Steps
import NetPlugin.Request

/-
  How a request is resolved.

  The variables are surveyed first.  Only an environment
  that is accepted has the standard input read, and that
  only for commands other than VERSION.

  Main declarations:
    * `Environment.survey_eq`
    * `Environment.IsAccepted`
    * `Request.Course` and `Request.resolve_course`
-/

------------------------------------------------------------
-- Surveys
------------------------------------------------------------

namespace NetPlugin

/- All variables are in the list of all of them. -/
theorem Variable.mem_all (v : Variable) :
    v ∈ Variable.all := by
  cases v <;> simp [Variable.all]

namespace Environment

/- The command that an environment names, if it does. -/
def command? (env : Environment) : Option Command :=
  Command.ofName? (env .command)

/- A required variable that is empty. -/
def isMissing
    (env : Environment)
    (v : Variable) : Bool :=
  v.isRequired env.command? && env v == ""

/- The error of a required variable that is invalid. -/
def fault?
    (env : Environment)
    (v : Variable) : Option PluginError :=
  if v.isRequired env.command? && env v != "" then
    match v.check (env v) with
    | .error e => some e
    | .ok () => none
  else none

/- The missing variables, in order. -/
def absent (env : Environment) : List Variable :=
  Variable.all.filter env.isMissing

/- Every required variable is set, and to a valid value. -/
def IsAccepted (env : Environment) : Prop :=
  ∀ v : Variable, v.isRequired env.command? = true →
    env v ≠ "" ∧ v.check (env v) = .ok ()

/-
  A survey fails with the first invalid value, whatever is
  missing, and otherwise gathers what is missing.
-/
theorem survey_eq
    (env : Environment)
    (listed : List Variable) :
    env.survey env.command? listed =
      match listed.findSome? env.fault? with
      | some e => .error e
      | none => .ok (listed.filter env.isMissing) := by
  induction listed with
  | nil => rfl
  | cons v rest ih =>
      rw [survey]
      by_cases hRequired : v.isRequired env.command? = true
      · by_cases hEmpty : env v = ""
        · have hFault : env.fault? v = none := by
            simp [fault?, hEmpty]
          have hMissing : env.isMissing v = true := by
            simp [isMissing, hRequired, hEmpty]
          rw [if_pos hRequired, if_pos hEmpty, ih,
            List.findSome?_cons_of_isNone
              (by simp [hFault]),
            List.filter_cons_of_pos hMissing]
          cases rest.findSome? env.fault? <;> rfl
        · have hPresent : env.isMissing v = false := by
            simp [isMissing, hEmpty]
          rw [if_pos hRequired, if_neg hEmpty]
          cases hCheck : v.check (env v) with
          | error e =>
              have hFault : env.fault? v = some e := by
                simp [fault?, hRequired, hEmpty, hCheck]
              simp [hFault]
          | ok accepted =>
              have hFault : env.fault? v = none := by
                simp [fault?, hCheck]
              rw [ih, List.findSome?_cons, hFault,
                List.filter_cons_of_neg (by simp [hPresent])]
      · have hFault : env.fault? v = none := by
          simp [fault?, hRequired]
        have hPresent : env.isMissing v = false := by
          simp [isMissing, hRequired]
        rw [if_neg hRequired, ih, List.findSome?_cons,
          hFault,
          List.filter_cons_of_neg (by simp [hPresent])]

/- A fault is that of a required variable that is set. -/
theorem fault?_eq_some_iff
    (env : Environment)
    (v : Variable)
    (e : PluginError) :
    env.fault? v = some e ↔
      v.isRequired env.command? = true ∧ env v ≠ "" ∧
        v.check (env v) = .error e := by
  unfold fault?
  cases hCheck : v.check (env v) with
  | error f =>
      by_cases hRequired : v.isRequired env.command? = true
        <;> by_cases hEmpty : env v = ""
        <;> simp [hRequired, hEmpty]
  | ok accepted => simp

/- A fault is one of a variable that is not accepted. -/
theorem not_isAccepted_of_fault
    {env : Environment}
    {v : Variable}
    {e : PluginError}
    (hFault : env.fault? v = some e) :
    ¬ env.IsAccepted := by
  rw [fault?_eq_some_iff] at hFault
  intro hAccepted
  have hValid := (hAccepted v hFault.1).2
  rw [hFault.2.2] at hValid
  cases hValid

/- Acceptance is a survey that finds nothing. -/
theorem isAccepted_iff (env : Environment) :
    env.IsAccepted ↔
      Variable.all.findSome? env.fault? = none ∧
        env.absent = [] := by
  constructor
  · intro hAccepted
    constructor
    · rw [List.findSome?_eq_none_iff]
      intro v _
      cases hFault : env.fault? v with
      | none => rfl
      | some e =>
          exact
            absurd hAccepted (not_isAccepted_of_fault hFault)
    · apply List.filter_eq_nil_iff.2
      intro v _ hMissing
      unfold isMissing at hMissing
      rw [Bool.and_eq_true, beq_iff_eq] at hMissing
      exact (hAccepted v hMissing.1).1 hMissing.2
  · rintro ⟨hFaults, hAbsent⟩ v hRequired
    have hSet : env v ≠ "" := by
      intro hEmpty
      apply List.filter_eq_nil_iff.1 hAbsent v v.mem_all
      simp [isMissing, hRequired, hEmpty]
    refine ⟨hSet, ?_⟩
    cases hCheck : v.check (env v) with
    | ok accepted => rfl
    | error e =>
        have hFault :=
          (fault?_eq_some_iff env v e).2
            ⟨hRequired, hSet, hCheck⟩
        rw [List.findSome?_eq_none_iff.1 hFaults v
          v.mem_all] at hFault
        cases hFault

/- Nor is an environment in which something is missing. -/
theorem not_isAccepted_of_absent
    {env : Environment}
    {v : Variable}
    {more : List Variable}
    (hAbsent : env.absent = v :: more) :
    ¬ env.IsAccepted := by
  intro hAccepted
  rw [(env.isAccepted_iff.1 hAccepted).2] at hAbsent
  cases hAbsent

/- A command is always required. -/
theorem IsAccepted.command_ne_empty
    {env : Environment}
    (hAccepted : env.IsAccepted) :
    env .command ≠ "" :=
  (hAccepted .command rfl).1

end Environment

------------------------------------------------------------
-- Courses of Requests
------------------------------------------------------------

/- The session after its input was read. -/
def Session.afterReading (session : Session) : Session :=
  { session with stdin := session.stdin.readToEnd.2 }

namespace Request

/- The input is read for the request of an environment. -/
def Reads (env : Environment) : Prop :=
  env.IsAccepted ∧ env .command ≠ Command.version.name

/- It is not for VERSION, or where variables are rejected. -/
theorem not_reads_iff (env : Environment) :
    ¬ Reads env ↔
      env .command = Command.version.name ∨
        ¬ env.IsAccepted := by
  unfold Reads
  rw [Classical.not_and_iff_not_or_not, ne_eq,
    Classical.not_not, or_comm]

variable (env : Environment) (session : Session)

/-
  The ways in which a request is resolved, with all that
  each of them leaves.
-/
inductive Course (outcome : Outcome Request) : Prop
  | invalid
      (v : Variable)
      (e : PluginError)
      (hFault : env.fault? v = some e)
      (hOutcome : outcome = ⟨.error e, [], session⟩)
  | missing
      (v : Variable)
      (more : List Variable)
      (hAbsent : env.absent = v :: more)
      (hOutcome :
        outcome =
          ⟨.error (Environment.missing (v :: more)),
            [.logged
              (.variablesMissing (env .command)
                (v :: more))],
            session⟩)
  | reportAsked
      (hAccepted : env.IsAccepted)
      (hCommand : env .command = Command.version.name)
      (hOutcome :
        outcome =
          ⟨.ok ⟨env .command, .ofEnvironment env []⟩, [],
            session⟩)
  | unreadable
      (e : IoError)
      (hReads : Reads env)
      (hRead : session.stdin.readToEnd.1 = .error e)
      (hOutcome :
        outcome =
          ⟨.error (Step.unreadableInput e), [],
            session.afterReading⟩)
  | unusable
      (config : Bytes)
      (e : PluginError)
      (hReads : Reads env)
      (hRead : session.stdin.readToEnd.1 = .ok config)
      (hCheck : NetworkConfig.check config = .error e)
      (hOutcome :
        outcome = ⟨.error e, [], session.afterReading⟩)
  | resolved
      (config : Bytes)
      (hReads : Reads env)
      (hRead : session.stdin.readToEnd.1 = .ok config)
      (hCheck : NetworkConfig.check config = .ok ())
      (hOutcome :
        outcome =
          ⟨.ok ⟨env .command, .ofEnvironment env config⟩,
            [], session.afterReading⟩)

variable {session}

/- The input as the session has it. -/
theorem readConfig_eq_ok
    {config : Bytes}
    (hRead : session.stdin.readToEnd.1 = .ok config) :
    Step.readConfig session =
      ⟨.ok config, [], session.afterReading⟩ := by
  show Outcome.mk (session.stdin.readToEnd.1.mapError _) _ _ =
    _
  rw [hRead]
  rfl

theorem readConfig_eq_error
    {e : IoError}
    (hRead : session.stdin.readToEnd.1 = .error e) :
    Step.readConfig session =
      ⟨.error (Step.unreadableInput e), [],
        session.afterReading⟩ := by
  show Outcome.mk (session.stdin.readToEnd.1.mapError _) _ _ =
    _
  rw [hRead]
  rfl

/- Only the name of VERSION asks for a report. -/
theorem readsInput_iff :
    readsInput env.command? = true ↔
      env .command ≠ Command.version.name := by
  unfold readsInput Environment.command?
  rw [decide_eq_true_iff, ne_eq,
    Command.ofName?_eq_some_iff]

/- The input that is read, up to its check. -/
theorem config_eq_of_readsInput
    {command : Option Command}
    (hReads : readsInput command = true)
    {config : Bytes}
    (hRead : session.stdin.readToEnd.1 = .ok config) :
    Request.config command session =
      ⟨(NetworkConfig.check config).map fun () => config, [],
        session.afterReading⟩ := by
  unfold Request.config
  rw [if_pos hReads, Step.bind_eq_behind
    (readConfig_eq_ok hRead), Outcome.behind_nil]
  cases hCheck : NetworkConfig.check config with
  | error e =>
      exact Step.bind_ofResult_error rfl _ _
  | ok checked =>
      exact Step.bind_ofResult_ok rfl _ _

theorem config_eq_error
    {command : Option Command}
    (hReads : readsInput command = true)
    {e : IoError}
    (hRead : session.stdin.readToEnd.1 = .error e) :
    Request.config command session =
      ⟨.error (Step.unreadableInput e), [],
        session.afterReading⟩ := by
  unfold Request.config
  rw [if_pos hReads]
  exact Step.bind_eq_error (readConfig_eq_error hRead) _

/- Nothing but the input is left to resolve. -/
theorem resolve_of_isAccepted
    (hAccepted : env.IsAccepted) :
    resolve env =
      (do
        let bytes ← config env.command?
        pure ⟨env .command, .ofEnvironment env bytes⟩) := by
  rcases env.isAccepted_iff.1 hAccepted with
    ⟨hFaults, hAbsent⟩
  have hSurvey := env.survey_eq Variable.all
  unfold Environment.absent at hAbsent
  rw [hFaults, hAbsent] at hSurvey
  unfold Environment.command? at hSurvey ⊢
  simp only [resolve, hSurvey]

/- A request whose configuration is read and is valid. -/
theorem resolve_eq_ok
    {config : Bytes}
    (hReads : Reads env)
    (hRead : session.stdin.readToEnd.1 = .ok config)
    (hCheck : NetworkConfig.check config = .ok ()) :
    resolve env session =
      ⟨.ok ⟨env .command, .ofEnvironment env config⟩, [],
        session.afterReading⟩ := by
  have hConfig :=
    config_eq_of_readsInput
      ((readsInput_iff env).2 hReads.2) hRead
  rw [hCheck] at hConfig
  rw [resolve_of_isAccepted env hReads.1]
  exact Step.bind_eq_behind hConfig _

/- Its command is the one that the environment names. -/
theorem resolved_iff
    {env : Environment}
    {config : Bytes}
    {named : Command}
    (hReads : Reads env)
    (hRead : session.stdin.readToEnd.1 = .ok config)
    (hCheck : NetworkConfig.check config = .ok ())
    (hCommand : env.command? = some named)
    (command : Command)
    (args : Args) :
    (env .command = command.name ∧
        (resolve env session).result =
          .ok ⟨command.name, args⟩) ↔
      command = named ∧
        args = .ofEnvironment env config := by
  have hName : env .command = named.name :=
    (Command.ofName?_eq_some_iff _ _).1 hCommand
  rw [resolve_eq_ok env hReads hRead hCheck]
  constructor
  · rintro ⟨hNamed, hResolved⟩
    rw [← Command.ofName?_eq_some_iff] at hNamed
    rcases Request.mk.inj (Except.ok.inj hResolved) with
      ⟨_, hArgs⟩
    exact
      ⟨Option.some.inj (hNamed.symm.trans hCommand),
        hArgs.symm⟩
  · rintro ⟨rfl, rfl⟩
    exact ⟨hName, by rw [hName]⟩

/- A request is resolved for one command, in one way. -/
theorem resolved_unique
    {env : Environment}
    {command other : Command}
    {args others : Args}
    (hOne :
      (resolve env session).result =
        .ok ⟨command.name, args⟩)
    (hTwo :
      (resolve env session).result =
        .ok ⟨other.name, others⟩) :
    command = other ∧ args = others := by
  rcases Request.mk.inj
      (Except.ok.inj (hOne.symm.trans hTwo)) with
    ⟨hName, hArgs⟩
  rw [← Command.ofName?_eq_some_iff, Command.ofName?_name]
    at hName
  exact ⟨Option.some.inj hName, hArgs⟩

/- A request whose configuration is read and is refused. -/
theorem resolve_eq_of_unusable
    {config : Bytes}
    {e : PluginError}
    (hReads : Reads env)
    (hRead : session.stdin.readToEnd.1 = .ok config)
    (hCheck : NetworkConfig.check config = .error e) :
    resolve env session =
      ⟨.error e, [], session.afterReading⟩ := by
  have hConfig :=
    config_eq_of_readsInput
      ((readsInput_iff env).2 hReads.2) hRead
  rw [hCheck] at hConfig
  rw [resolve_of_isAccepted env hReads.1]
  exact Step.bind_eq_error hConfig _

/- A request whose configuration cannot be read. -/
theorem resolve_eq_of_unreadable
    {failure : IoError}
    (hReads : Reads env)
    (hRead : session.stdin.readToEnd.1 = .error failure) :
    resolve env session =
      ⟨.error (Step.unreadableInput failure), [],
        session.afterReading⟩ := by
  have hInput := (readsInput_iff env).2 hReads.2
  rw [resolve_of_isAccepted env hReads.1]
  exact Step.bind_eq_error (config_eq_error hInput hRead) _

variable (session)

/- A request for a report. -/
theorem resolve_eq_of_report
    (hAccepted : env.IsAccepted)
    (hCommand : env .command = Command.version.name) :
    resolve env session =
      ⟨.ok ⟨env .command, .ofEnvironment env []⟩, [],
        session⟩ := by
  have hReport : ¬ readsInput env.command? = true := by
    rw [readsInput_iff]
    exact not_not_intro hCommand
  rw [resolve_of_isAccepted env hAccepted, config,
    if_neg hReport]
  rfl

/- The courses that begin with accepted variables. -/
theorem resolve_course_of_isAccepted
    (hAccepted : env.IsAccepted) :
    Course env session (resolve env session) := by
  by_cases hCommand : env .command = Command.version.name
  · exact
      .reportAsked hAccepted hCommand
        (resolve_eq_of_report env session hAccepted hCommand)
  · have hReads : Reads env := ⟨hAccepted, hCommand⟩
    cases hRead : session.stdin.readToEnd.1 with
    | error e =>
        exact
          .unreadable e hReads hRead
            (resolve_eq_of_unreadable env hReads hRead)
    | ok bytes =>
        cases hCheck : NetworkConfig.check bytes with
        | error e =>
            exact
              .unusable bytes e hReads hRead hCheck
                (resolve_eq_of_unusable env hReads hRead
                  hCheck)
        | ok checked =>
            exact
              .resolved bytes hReads hRead hCheck
                (resolve_eq_ok env hReads hRead hCheck)

/- The first invalid variable ends the survey. -/
theorem resolve_eq_of_fault
    {e : PluginError}
    (hFault : Variable.all.findSome? env.fault? = some e) :
    resolve env session = ⟨.error e, [], session⟩ := by
  have hSurvey := env.survey_eq Variable.all
  rw [hFault] at hSurvey
  unfold Environment.command? at hSurvey
  simp only [resolve, hSurvey]
  rfl

/- Where none is invalid, the missing ones are reported. -/
theorem resolve_eq_of_absent
    {v : Variable}
    {more : List Variable}
    (hFaults : Variable.all.findSome? env.fault? = none)
    (hAbsent : env.absent = v :: more) :
    resolve env session =
      ⟨.error (Environment.missing (v :: more)),
        [.logged
          (.variablesMissing (env .command) (v :: more))],
        session⟩ := by
  have hSurvey := env.survey_eq Variable.all
  unfold Environment.absent at hAbsent
  rw [hFaults, hAbsent] at hSurvey
  unfold Environment.command? at hSurvey
  simp only [resolve, hSurvey]
  rfl

/- Every resolution takes one of the courses. -/
theorem resolve_course :
    Course env session (resolve env session) := by
  cases hFaults : Variable.all.findSome? env.fault? with
  | some e =>
      rcases List.exists_of_findSome?_eq_some hFaults with
        ⟨v, _, hFault⟩
      exact
        .invalid v e hFault
          (resolve_eq_of_fault env session hFaults)
  | none =>
      cases hAbsent : env.absent with
      | nil =>
          exact
            resolve_course_of_isAccepted env session
              (env.isAccepted_iff.2 ⟨hFaults, hAbsent⟩)
      | cons v more =>
          exact
            .missing v more hAbsent
              (resolve_eq_of_absent env session hFaults
                hAbsent)

------------------------------------------------------------
-- What a Request Leaves
------------------------------------------------------------

variable {env session} {outcome : Outcome Request}

/- Nobody is called or asked for a request. -/
theorem Course.isSilent
    (hCourse : Course env session outcome) :
    outcome.trace.IsSilent := by
  cases hCourse with
  | _ =>
      rename_i hOutcome
      constructor <;> simp [hOutcome]

theorem isSilent_of_resolve
    {result : Except PluginError Request}
    {trace : Trace}
    {after : Session}
    (hResolve :
      resolve env session = ⟨result, trace, after⟩) :
    trace.IsSilent := by
  have hCourse := resolve_course env session
  rw [hResolve] at hCourse
  exact hCourse.isSilent

/- The input is read where it should be. -/
theorem Course.session_of_reads
    (hCourse : Course env session outcome)
    (hReads : Reads env) :
    outcome.session = session.afterReading := by
  cases hCourse with
  | invalid v e hFault hOutcome =>
      exact
        absurd hReads.1
          (Environment.not_isAccepted_of_fault hFault)
  | missing v more hAbsent hOutcome =>
      exact
        absurd hReads.1
          (Environment.not_isAccepted_of_absent hAbsent)
  | reportAsked hAccepted hCommand hOutcome =>
      exact absurd hCommand hReads.2
  | unreadable e _ hRead hOutcome => rw [hOutcome]
  | unusable config e _ hRead hCheck hOutcome =>
      rw [hOutcome]
  | resolved config _ hRead hCheck hOutcome => rw [hOutcome]

/- Where it should not be, nothing is touched. -/
theorem Course.session_of_not_reads
    (hCourse : Course env session outcome)
    (hNot : ¬ Reads env) :
    outcome.session = session := by
  cases hCourse with
  | invalid v e hFault hOutcome => rw [hOutcome]
  | missing v more hAbsent hOutcome => rw [hOutcome]
  | reportAsked hAccepted hCommand hOutcome =>
      rw [hOutcome]
  | unreadable e hReads hRead hOutcome =>
      exact absurd hReads hNot
  | unusable config e hReads hRead hCheck hOutcome =>
      exact absurd hReads hNot
  | resolved config hReads hRead hCheck hOutcome =>
      exact absurd hReads hNot

/- An input that cannot be read is the end of a request. -/
theorem Course.result_of_unreadable
    (hCourse : Course env session outcome)
    (hReads : Reads env)
    {failure : IoError}
    (hRead : session.stdin.readToEnd.1 = .error failure) :
    outcome.result =
      .error (Step.unreadableInput failure) := by
  cases hCourse with
  | invalid v e hFault hOutcome =>
      exact
        absurd hReads.1
          (Environment.not_isAccepted_of_fault hFault)
  | missing v more hAbsent hOutcome =>
      exact
        absurd hReads.1
          (Environment.not_isAccepted_of_absent hAbsent)
  | reportAsked hAccepted hCommand hOutcome =>
      exact absurd hCommand hReads.2
  | unreadable e _ hOther hOutcome =>
      rw [hRead] at hOther
      cases hOther
      rw [hOutcome]
  | unusable config e _ hOther hCheck hOutcome =>
      rw [hRead] at hOther
      cases hOther
  | resolved config _ hOther hCheck hOutcome =>
      rw [hRead] at hOther
      cases hOther

end Request

end NetPlugin
