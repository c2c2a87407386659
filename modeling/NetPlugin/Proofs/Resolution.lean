import NetPlugin.Proofs.EarlyExit
import NetPlugin.Proofs.IdentifierLanguages

/-
  What a request comes to, in order of precedence.

  A survey gathers missing variables and stops at an invalid
  one.  Seen from outside, an invalid container id wins over
  an invalid interface name, this one over everything that
  is missing, and all of them over the input, which wins
  over the configuration that is read from it.

  Main declarations:
    * `Variable.Needs` and `isRequired_iff_needs`
    * `Variable.Rejects` and `check_eq_error_iff`
    * `Environment.IsRefused` and `Environment.IsLacking`
    * `Request.ResolvesInOrder`
    * `Request.FailsAsUnknown`
    * `Request.resolve_in_order`
-/

------------------------------------------------------------
-- Needs
------------------------------------------------------------

namespace NetPlugin

/- No command has a name that is not in the list. -/
theorem Command.name_mem (command : Command) :
    command.name ∈ ["ADD", "CHECK", "DEL", "GC", "VERSION"] := by
  cases command <;> simp [name]

/- What the commands need, by the names they have. -/
def Variable.Needs (name : String) : Variable → Prop
  | .command => True
  | .containerId => name ∈ ["ADD", "CHECK", "DEL"]
  | .netns => name ∈ ["ADD", "CHECK"]
  | .ifName => name ∈ ["ADD", "CHECK", "DEL"]
  | .args => False
  | .path => name ∈ ["ADD", "CHECK", "DEL", "GC"]
  | .netnsOverride => False

/- A name that is none of a command needs nothing else. -/
theorem Variable.not_needs_of_ofName?_eq_none
    {name : String}
    {v : Variable}
    (hName : Command.ofName? name = none)
    (hOther : v ≠ .command) :
    ¬ v.Needs name := by
  have hNot : ∀ command : Command, name ≠ command.name := by
    intro command hSame
    rw [← Command.ofName?_eq_some_iff, hName] at hSame
    cases hSame
  have hAdd := hNot .add
  have hCheck := hNot .check
  have hDel := hNot .del
  have hGc := hNot .gc
  cases v <;> simp_all [Needs, Command.name]

/- The table of commands says what the names need. -/
theorem Variable.isRequired_iff_needs
    (v : Variable)
    (name : String) :
    v.isRequired (Command.ofName? name) = true ↔
      v.Needs name := by
  cases hName : Command.ofName? name with
  | none =>
      by_cases hCommand : v = .command
      · subst hCommand
        simp [isRequired, Needs]
      · have hNot :=
          not_needs_of_ofName?_eq_none hName hCommand
        simp [isRequired, hCommand, hNot]
  | some command =>
      rw [Command.ofName?_eq_some_iff] at hName
      subst hName
      cases v <;> cases command <;>
        simp [isRequired, neededBy, Needs, Command.name]

------------------------------------------------------------
-- Variables That Are Refused or Lacking
------------------------------------------------------------

/-
  What the value of a variable is rejected with, if it is:
  a container id has to be a name, and an interface name
  must not break a rule.
-/
def Variable.Rejects
    (value : String)
    (e : PluginError) : Variable → Prop
  | .containerId =>
      ¬ Identifier.InNameLanguage value ∧
        e =
          { code := .invalidEnvironment
            message := "invalid characters in containerID"
            details := value }
  | .ifName =>
      ∃ rule,
        Identifier.IsFirstBroken value rule ∧ e = rule.error
  | _ => False

/- The checks reject what they should, and nothing else. -/
theorem Variable.check_eq_error_iff
    {v : Variable}
    {value : String}
    (hSet : value ≠ "")
    (e : PluginError) :
    v.check value = .error e ↔ v.Rejects value e := by
  cases v with
  | containerId =>
      show Identifier.checkContainerId value = .error e ↔ _
      by_cases hName : Identifier.InNameLanguage value
      · rw [(Identifier.checkContainerId_eq_ok_iff _).2 hName]
        simp [Rejects, hName]
      · rw [Identifier.checkContainerId_of_not_inNameLanguage
          hSet hName]
        simp [Rejects, hName, Identifier.Fault.toError,
          eq_comm]
  | ifName =>
      exact Identifier.checkInterfaceName_eq_error_iff value e
  | _ => simp [check, Rejects]

/- The error that names some variables as missing. -/
def Variable.absence (absent : List Variable) : PluginError :=
  { code := .invalidEnvironment
    message :=
      "required env variables [" ++
        ",".intercalate (absent.map Variable.name) ++
        "] missing"
    details := "" }

namespace Environment

variable (env : Environment)

/- A variable is needed and set, and is invalid. -/
def IsRefused
    (v : Variable)
    (e : PluginError) : Prop :=
  v.Needs (env .command) ∧ env v ≠ "" ∧
    v.Rejects (env v) e

/- A variable is needed, and is empty. -/
def IsLacking (v : Variable) : Prop :=
  v.Needs (env .command) ∧ env v = ""

/- Neither of the two identifiers is refused. -/
def IsValid : Prop :=
  ∀ e,
    ¬ env.IsRefused .containerId e ∧
      ¬ env.IsRefused .ifName e

/- Nothing is missing. -/
def IsFilled : Prop :=
  ∀ v, ¬ env.IsLacking v

theorem fault?_eq_some_iff_isRefused
    (v : Variable)
    (e : PluginError) :
    env.fault? v = some e ↔ env.IsRefused v e := by
  rw [fault?_eq_some_iff]
  unfold command? IsRefused
  rw [Variable.isRequired_iff_needs]
  constructor
  · rintro ⟨hNeeds, hSet, hCheck⟩
    exact
      ⟨hNeeds, hSet,
        (Variable.check_eq_error_iff hSet e).1 hCheck⟩
  · rintro ⟨hNeeds, hSet, hRejects⟩
    exact
      ⟨hNeeds, hSet,
        (Variable.check_eq_error_iff hSet e).2 hRejects⟩

theorem fault?_eq_none_iff (v : Variable) :
    env.fault? v = none ↔ ∀ e, ¬ env.IsRefused v e := by
  simp only [← fault?_eq_some_iff_isRefused,
    Option.eq_none_iff_forall_ne_some, ne_eq]

theorem isMissing_iff_isLacking (v : Variable) :
    env.isMissing v = true ↔ env.IsLacking v := by
  unfold isMissing command? IsLacking
  rw [Bool.and_eq_true, beq_iff_eq,
    Variable.isRequired_iff_needs]

/- Only the two identifiers have a check that can fail. -/
theorem fault?_eq_none_of_ne
    {v : Variable}
    (hContainerId : v ≠ .containerId)
    (hIfName : v ≠ .ifName) :
    env.fault? v = none := by
  have hCheck : v.check (env v) = .ok () := by
    cases v <;> simp_all [Variable.check]
  unfold fault?
  rw [hCheck]
  split <;> rfl

/- The container id is surveyed before the interface. -/
theorem findSome?_fault? :
    Variable.all.findSome? env.fault? =
      (env.fault? .containerId).or (env.fault? .ifName) := by
  have hNone :
      ∀ v : Variable, v ≠ .containerId → v ≠ .ifName →
        env.fault? v = none :=
    fun v => env.fault?_eq_none_of_ne
  cases hContainerId : env.fault? .containerId with
  | some e =>
      simp [Variable.all, hNone, hContainerId]
  | none =>
      cases hIfName : env.fault? .ifName <;>
        simp [Variable.all, hNone, hContainerId, hIfName]

theorem findSome?_fault?_eq_none_iff :
    Variable.all.findSome? env.fault? = none ↔
      env.IsValid := by
  rw [findSome?_fault?, Option.or_eq_none_iff,
    fault?_eq_none_iff, fault?_eq_none_iff]
  exact forall_and.symm

/- The survey lists what is lacking, in order. -/
theorem mem_absent_iff (v : Variable) :
    v ∈ env.absent ↔ env.IsLacking v := by
  unfold absent
  rw [List.mem_filter, isMissing_iff_isLacking]
  exact and_iff_right v.mem_all

theorem absent_sublist :
    env.absent.Sublist Variable.all :=
  List.filter_sublist

theorem absent_eq_nil_iff :
    env.absent = [] ↔ env.IsFilled := by
  simp only [List.eq_nil_iff_forall_not_mem, mem_absent_iff,
    IsFilled]

theorem isAccepted_iff_isFilled :
    env.IsAccepted ↔ env.IsValid ∧ env.IsFilled := by
  rw [isAccepted_iff, findSome?_fault?_eq_none_iff,
    absent_eq_nil_iff]

/- No other text is the name of a command. -/
theorem command?_eq_none
    (hOther :
      env .command ∉
        ["ADD", "CHECK", "DEL", "GC", "VERSION"]) :
    env.command? = none := by
  cases hCommand : env.command? with
  | none => rfl
  | some command =>
      have hName : env .command = command.name :=
        (Command.ofName?_eq_some_iff _ _).1 hCommand
      rw [hName] at hOther
      exact absurd command.name_mem hOther

end Environment

------------------------------------------------------------
-- Precedence
------------------------------------------------------------

namespace Request

/-
  What a request comes to.  Each case only applies where
  those before it do not: an invalid container id, an
  invalid interface name, missing variables, an unreadable
  input, an unusable configuration, and no failure.
-/
structure ResolvesInOrder
    (env : Environment)
    (stdin : Source)
    (result : Except PluginError Request) : Prop where
  badContainerId :
    ∀ e, env.IsRefused .containerId e → result = .error e
  badIfName :
    (∀ e, ¬ env.IsRefused .containerId e) →
      ∀ e, env.IsRefused .ifName e → result = .error e
  missing :
    env.IsValid → ¬ env.IsFilled →
      ∃ absent : List Variable,
        absent.Sublist Variable.all ∧
          (∀ v, v ∈ absent ↔ env.IsLacking v) ∧
          result = .error (Variable.absence absent)
  unreadable :
    env.IsValid → env.IsFilled → env .command ≠ "VERSION" →
      ∀ failure,
        stdin.readToEnd.1 = .error failure →
          result =
            .error
              { code := .ioFailure
                message :=
                  "error reading from stdin: " ++ failure.text
                details := "" }
  unusable :
    env.IsValid → env.IsFilled → env .command ≠ "VERSION" →
      ∀ config e,
        stdin.readToEnd.1 = .ok config →
        NetworkConfig.check config = .error e →
          result = .error e
  /- VERSION has no configuration, which counts as empty. -/
  resolved :
    env.IsValid → env.IsFilled →
      ∀ config,
        (if env .command = "VERSION" then config = []
          else
            stdin.readToEnd.1 = .ok config ∧
              NetworkConfig.check config = .ok ()) →
        result =
          .ok
            { commandText := env .command
              args :=
                { containerId := env .containerId
                  netns := env .netns
                  ifName := env .ifName
                  args := env .args
                  path := env .path
                  netnsOverride := env .netnsOverride
                  config } }

variable (env : Environment) (session : Session)

theorem resolve_resolvesInOrder :
    ResolvesInOrder env session.stdin
      (resolve env session).result := by
  constructor
  case badContainerId =>
    intro e hRefused
    rw [← env.fault?_eq_some_iff_isRefused] at hRefused
    have hFirst := env.findSome?_fault?
    rw [hRefused, Option.some_or] at hFirst
    rw [resolve_eq_of_fault env session hFirst]
  case badIfName =>
    intro hContainerId e hRefused
    rw [← env.fault?_eq_none_iff] at hContainerId
    rw [← env.fault?_eq_some_iff_isRefused] at hRefused
    have hFirst := env.findSome?_fault?
    rw [hContainerId, hRefused, Option.none_or] at hFirst
    rw [resolve_eq_of_fault env session hFirst]
  case missing =>
    intro hValid hNotFilled
    refine
      ⟨env.absent, env.absent_sublist, env.mem_absent_iff,
        ?_⟩
    rw [← env.findSome?_fault?_eq_none_iff] at hValid
    rw [← env.absent_eq_nil_iff] at hNotFilled
    cases hAbsent : env.absent with
    | nil => exact absurd hAbsent hNotFilled
    | cons v more =>
        rw [resolve_eq_of_absent env session hValid hAbsent]
        rfl
  case unreadable =>
    intro hValid hFilled hOther failure hRead
    have hAccepted :=
      env.isAccepted_iff_isFilled.2 ⟨hValid, hFilled⟩
    rw [resolve_eq_of_unreadable env ⟨hAccepted, hOther⟩
      hRead]
    rfl
  case unusable =>
    intro hValid hFilled hOther config e hRead hCheck
    have hAccepted :=
      env.isAccepted_iff_isFilled.2 ⟨hValid, hFilled⟩
    rw [resolve_eq_of_unusable env ⟨hAccepted, hOther⟩ hRead
      hCheck]
  case resolved =>
    intro hValid hFilled config hConfig
    have hAccepted :=
      env.isAccepted_iff_isFilled.2 ⟨hValid, hFilled⟩
    by_cases hReport : env .command = "VERSION"
    · rw [if_pos hReport] at hConfig
      rw [resolve_eq_of_report env session hAccepted hReport,
        hConfig]
      rfl
    · rw [if_neg hReport] at hConfig
      rw [resolve_eq_ok env ⟨hAccepted, hReport⟩ hConfig.1
        hConfig.2]
      rfl

------------------------------------------------------------
-- Unknown Commands
------------------------------------------------------------

/- How an invocation with an unknown command fails. -/
structure FailsAsUnknown
    (env : Environment)
    (stdin : Source)
    (result : Except PluginError Unit) : Prop where
  unreadable :
    ∀ failure,
      stdin.readToEnd.1 = .error failure →
        result =
          .error
            { code := .ioFailure
              message :=
                "error reading from stdin: " ++ failure.text
              details := "" }
  unusable :
    ∀ config e,
      stdin.readToEnd.1 = .ok config →
      NetworkConfig.check config = .error e →
        result = .error e
  unknown :
    ∀ config,
      stdin.readToEnd.1 = .ok config →
      NetworkConfig.check config = .ok () →
        result =
          .error
            { code := .invalidEnvironment
              message :=
                "unknown CNI_COMMAND: " ++ env .command
              details := "" }
  notMissing :
    ∀ absent, result ≠ .error (Variable.absence absent)

variable {env session}

/- An unknown command is never missing a variable. -/
theorem isFilled_of_unknown
    (hUnknown : env.command? = none)
    (hSet : env .command ≠ "") :
    env.IsFilled := by
  rintro v ⟨hNeeds, hEmpty⟩
  by_cases hCommand : v = .command
  · subst hCommand
    exact hSet hEmpty
  · exact
      Variable.not_needs_of_ofName?_eq_none hUnknown
        hCommand hNeeds

/- Nor is any identifier looked at. -/
theorem isValid_of_unknown
    (hUnknown : env.command? = none) :
    env.IsValid := by
  intro e
  constructor <;> rintro ⟨hNeeds, _⟩ <;>
    exact
      Variable.not_needs_of_ofName?_eq_none hUnknown
        (by simp) hNeeds

/- What is missing is told by other codes or other words. -/
theorem unreadableInput_ne_missing
    (failure : IoError)
    (absent : List Variable) :
    Step.unreadableInput failure ≠
      Environment.missing absent := by
  intro hSame
  cases congrArg PluginError.code hSame

theorem refused_ne_missing
    {config : Bytes}
    {e : PluginError}
    (hCheck : NetworkConfig.check config = .error e)
    (absent : List Variable) :
    e ≠ Environment.missing absent := by
  intro hSame
  exact
    (NetworkConfig.refused_of_check hCheck).code_ne
      (congrArg PluginError.code hSame)

theorem unknown_ne_missing
    (text : String)
    (absent : List Variable) :
    Command.unknown text ≠ Environment.missing absent := by
  intro hSame
  have hMessage := congrArg PluginError.message hSame
  have hHead :=
    congrArg (fun message => message.toList.head?) hMessage
  simp [Command.unknown, Environment.missing] at hHead

/- It fails as its request does, or for being unknown. -/
theorem result_of_unknown
    {c : Collaborators}
    {handlers : Handlers}
    {plugin : Capabilities}
    {about : String}
    {outcome : Outcome Unit}
    (hCourse :
      Invocation.Course c env handlers plugin about session
        outcome)
    (hUnknown : env.command? = none)
    (hSet : env .command ≠ "") :
    outcome.result =
      (resolve env session).result.bind fun _ =>
        .error (Command.unknown (env .command)) := by
  cases hCourse with
  | introduced e trace after hResolve hWants hOutcome =>
      exact
        absurd
          (Invocation.command_of_wantsIntroduction hWants)
          hSet
  | unresolved e trace after hResolve hWants hOutcome =>
      rw [hOutcome, hResolve]
      rfl
  | reported hAccepted hCommand hOutcome =>
      rw [Environment.command?, hCommand,
        Command.ofName?_name] at hUnknown
      cases hUnknown
  | unknown config hReads hRead hCheck hCommand hOutcome =>
      rw [hOutcome, resolve_eq_ok env hReads hRead hCheck]
      rfl
  | performed config command inner hReads hRead hCheck
      hCommand hPerformed hOutcome =>
      rw [hUnknown] at hCommand
      cases hCommand

theorem failsAsUnknown_of_course
    {c : Collaborators}
    {handlers : Handlers}
    {plugin : Capabilities}
    {about : String}
    {outcome : Outcome Unit}
    (hCourse :
      Invocation.Course c env handlers plugin about session
        outcome)
    (hUnknown : env.command? = none)
    (hSet : env .command ≠ "") :
    FailsAsUnknown env session.stdin outcome.result := by
  have hValid := isValid_of_unknown hUnknown
  have hFilled := isFilled_of_unknown hUnknown hSet
  have hReads : Reads env := by
    refine
      ⟨env.isAccepted_iff_isFilled.2 ⟨hValid, hFilled⟩, ?_⟩
    intro hReport
    rw [Environment.command?, hReport,
      Command.ofName?_name] at hUnknown
    cases hUnknown
  have hResult := result_of_unknown hCourse hUnknown hSet
  have hUnreadable :
      ∀ failure,
        session.stdin.readToEnd.1 = .error failure →
          outcome.result =
            .error (Step.unreadableInput failure) := by
    intro failure hRead
    rw [hResult, resolve_eq_of_unreadable env hReads hRead]
    rfl
  have hUnusable :
      ∀ config e,
        session.stdin.readToEnd.1 = .ok config →
        NetworkConfig.check config = .error e →
          outcome.result = .error e := by
    intro config e hRead hCheck
    rw [hResult,
      resolve_eq_of_unusable env hReads hRead hCheck]
    rfl
  have hLast :
      ∀ config,
        session.stdin.readToEnd.1 = .ok config →
        NetworkConfig.check config = .ok () →
          outcome.result =
            .error (Command.unknown (env .command)) := by
    intro config hRead hCheck
    rw [hResult, resolve_eq_ok env hReads hRead hCheck]
    rfl
  refine ⟨hUnreadable, hUnusable, hLast, ?_⟩
  intro absent
  cases hRead : session.stdin.readToEnd.1 with
  | error failure =>
      rw [hUnreadable failure hRead, ne_eq,
        Except.error.injEq]
      exact unreadableInput_ne_missing failure absent
  | ok config =>
      cases hCheck : NetworkConfig.check config with
      | error e =>
          rw [hUnusable config e hRead hCheck, ne_eq,
            Except.error.injEq]
          exact refused_ne_missing hCheck absent
      | ok checked =>
          rw [hLast config hRead hCheck, ne_eq,
            Except.error.injEq]
          exact unknown_ne_missing _ absent

/-
  A request is resolved in the order of precedence, whatever
  else may be wrong with it; and an invocation whose command
  is set, but unknown, fails for its input, for its
  configuration, or at last for the command.
-/
theorem resolve_in_order
    (env : Environment)
    (session : Session) :
    ResolvesInOrder env session.stdin
        (resolve env session).result ∧
      ∀ c handlers plugin about,
        env .command ≠ "" →
        env .command ∉
            ["ADD", "CHECK", "DEL", "GC", "VERSION"] →
          FailsAsUnknown env session.stdin
            (Invocation.run c env handlers plugin about
              session).result := by
  refine ⟨resolve_resolvesInOrder env session, ?_⟩
  intro c handlers plugin about hSet hOther
  apply
    failsAsUnknown_of_course
      (Invocation.run_course c env handlers plugin about
        session)
      ?_ hSet
  cases hCommand : env.command? with
  | none => rfl
  | some command =>
      have hName : env .command = command.name :=
        (Command.ofName?_eq_some_iff _ _).1 hCommand
      rw [hName] at hOther
      exact absurd command.name_mem hOther

end Request

end NetPlugin
