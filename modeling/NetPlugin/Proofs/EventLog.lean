import NetPlugin.Proofs.NamespaceCheck
import NetPlugin.Proofs.NegotiationLog
import NetPlugin.Proofs.Reached
import NetPlugin.Proofs.Resolution
import NetPlugin.Proofs.VersionReport

/-
  What an invocation logs.

  An entry tells of missing variables, of a command that is
  dispatched, of its negotiation, of a handler that failed
  without an error of the protocol, or of a check that was
  switched off.  Each is there exactly if this happened,
  and nothing else is but what the handler reports.

  Main declarations:
    * `Invocation.CommandLog` and `CommandLog.Tells`
    * `Invocation.Performed.exists_log`
    * `Invocation.LogAgrees`
    * `Invocation.run_log_agrees`
-/

------------------------------------------------------------
-- The Log of a Command
------------------------------------------------------------

namespace NetPlugin

namespace Invocation

/-
  What is logged for a command behind its dispatch, with
  what the handler reports on its own in the middle.
-/
structure CommandLog where
  selected : List Log.Entry
  refused : List Log.Entry
  own : List Log.Entry
  failed : List Log.Entry
  overridden : List Log.Entry

/- The entries in the order in which they are logged. -/
def CommandLog.entries (log : CommandLog) :
    List Log.Entry :=
  log.selected ++
    (log.refused ++ (log.own ++ (log.failed ++ log.overridden)))

section Spec

variable (c : Collaborators) (env : Environment)
variable (handlers : Handlers) (plugin : Capabilities)
variable (session : Session) (command : Command)
variable (config : Bytes) (outcome : Outcome Unit)

/- The entry of a handler failure that is internal. -/
def IsInternalFailure (entry : Log.Entry) : Prop :=
  ∃ e,
    outcome.result = .error e ∧
      Explains c env handlers session outcome e .internal ∧
      entry = .handlerFailed e.message

/- The entry of a check that is reached and switched off. -/
def IsOverriding (entry : Log.Entry) : Prop :=
  (command = .add ∨ command = .del) ∧
    Negotiation.Passes c plugin session.decodings config
      command ∧
    handlers.Finish command (.ofEnvironment env config)
      session.stdout ∧
    Args.IsOverride (env .netnsOverride) ∧
    entry = .checkOverridden (env .netns)

/- The parts of a log are what is due. -/
structure CommandLog.Tells (log : CommandLog) : Prop where
  selected :
    Log.AreDue
      (Negotiation.IsSelection c plugin session.decodings
        config command)
      log.selected
  refused :
    Log.AreDue
      (Negotiation.IsRefusal c plugin session.decodings
        config command)
      log.refused
  own_of_uncalled : outcome.trace.calls = [] → log.own = []
  own_of_called :
    ∀ args handler,
      (command, args) ∈ outcome.trace.calls →
        handlers.handler? command = some handler →
          log.own =
            (handler args session.stdout).events.map
              Log.Event.entry
  failed :
    Log.AreDue
      (IsInternalFailure c env handlers session outcome)
      log.failed
  overridden :
    Log.AreDue
      (IsOverriding c env handlers plugin session command
        config)
      log.overridden

end Spec

section Handlers

variable {handlers : Handlers} {command : Command}
variable {args : Args} {session : Session}
variable {outcome : Outcome Unit}

/- What the handler of a command reports on its own. -/
def reportedBy
    (handlers : Handlers)
    (command : Command)
    (args : Args)
    (stdout : Sink) : List Log.Entry :=
  match handlers.handler? command with
  | none => []
  | some handler =>
      (handler args stdout).events.map Log.Event.entry

/- A handler fails, and no layer is of the protocol. -/
def FailsInternally
    (handlers : Handlers)
    (command : Command)
    (args : Args)
    (stdout : Sink)
    (failure : HandlerError) : Prop :=
  failure.outermost? = none ∧
    ∃ handler,
      handlers.handler? command = some handler ∧
        (handler args stdout).result = .error failure

theorem Handled.exists_logs
    (hHandled :
      Handled handlers command args session outcome) :
    ∃ failed,
      outcome.trace.entries =
          reportedBy handlers command args session.stdout ++
            failed ∧
        Log.AreDue
          (fun entry =>
            ∃ failure,
              FailsInternally handlers command args
                  session.stdout failure ∧
                entry = .handlerFailed failure.message)
          failed := by
  unfold reportedBy FailsInternally
  cases hHandled with
  | unset hHandler hOutcome =>
      subst hOutcome
      refine ⟨[], by simp [hHandler], ?_⟩
      apply Log.areDue_nil
      simp [hHandler]
  | finished handler hHandler hResult hOutcome =>
      subst hOutcome
      refine
        ⟨[], by simp [hHandler, Step.replyTrace], ?_⟩
      apply Log.areDue_nil
      simp [hHandler, hResult]
  | failed handler failure hHandler hResult hOutcome =>
      subst hOutcome
      refine
        ⟨failure.warnings.map Log.Event.entry,
          by simp [hHandler, Step.replyTrace], ?_⟩
      unfold HandlerError.warnings
      cases hOutermost : failure.outermost? with
      | some e =>
          apply Log.areDue_nil
          simp [hHandler, hResult, hOutermost]
      | none =>
          apply Log.areDue_singleton
          intro other
          simp [hHandler, hResult, hOutermost]

end Handlers

/- A check that is switched off leaves an entry. -/
theorem Checked.areDue
    {c : Collaborators}
    {args : Args}
    {session : Session}
    {outcome : Outcome Unit}
    (hChecked : Checked c args session outcome) :
    Log.AreDue
      (fun entry =>
        args.isOverridden = true ∧
          entry = .checkOverridden args.netns)
      outcome.trace.entries := by
  cases hChecked with
  | overridden hOverridden hOutcome =>
      subst hOutcome
      apply Log.areDue_singleton
      simp [hOverridden]
  | _ =>
      rename_i hOverridden _ hOutcome
      subst hOutcome
      apply Log.areDue_nil
      simp [hOverridden]

section Performed

variable {c : Collaborators} {env : Environment}
variable {handlers : Handlers} {plugin : Capabilities}
variable {command : Command} {args : Args}
variable {config : Bytes} {session : Session}
variable {outcome : Outcome Unit}

/- Neither the reading nor the dispatch makes a difference. -/
theorem CommandLog.Tells.behind
    {log : CommandLog}
    {event : Log.Event}
    (hTells :
      log.Tells c env handlers plugin session.afterReading
        command config outcome) :
    log.Tells c env handlers plugin session command config
      (outcome.behind [.logged event]) := by
  constructor
  case selected => exact hTells.selected
  case refused => exact hTells.refused
  case own_of_uncalled => exact hTells.own_of_uncalled
  case own_of_called => exact hTells.own_of_called
  case failed => exact hTells.failed
  case overridden => exact hTells.overridden

/- An internal error is that of the handler, if it passes. -/
theorem Performed.isInternalFailure_iff
    (hPerformed :
      Performed c handlers plugin command args session
        outcome)
    (entry : Log.Entry) :
    IsInternalFailure c env handlers session outcome
        entry ↔
      Negotiation.Passes c plugin session.decodings
          args.config command ∧
        ∃ failure,
          FailsInternally handlers command args
              session.stdout failure ∧
            entry = .handlerFailed failure.message := by
  constructor
  · rintro ⟨e, hError, ⟨_, _, failure, hFailed, hMessage,
      hLayers⟩, hEntry⟩
    rcases hFailed with
      ⟨called, others, handler, hCalled, hHandler, hResult⟩
    rcases (hPerformed.mem_calls_iff _).1 hCalled with
      ⟨hSame, _, hPasses⟩
    cases hSame
    rw [← failure.outermost?_eq_none_iff] at hLayers
    rw [hMessage] at hEntry
    exact
      ⟨hPasses, failure, ⟨hLayers, handler, hHandler, hResult⟩,
        hEntry⟩
  · rintro ⟨hPasses, failure, ⟨hNone, handler, hHandler,
      hResult⟩, hEntry⟩
    have hSet : (handlers.handler? command).isSome := by
      rw [hHandler]
      rfl
    have hCalled :=
      (hPerformed.mem_calls_iff (command, args)).2
        ⟨rfl, hSet, hPasses⟩
    have hOutcome :=
      hPerformed.result_of_mem_calls hCalled hHandler
    have hClassified :
        failure.classify = .internal failure.message :=
      (failure.classify_eq_iff _).2 (Or.inr ⟨hNone, rfl⟩)
    simp only [resultBehind, hResult, hClassified]
      at hOutcome
    rw [failure.outermost?_eq_none_iff] at hNone
    exact
      ⟨_, hOutcome,
        ⟨rfl, rfl, failure,
          ⟨command, args, handler, hCalled, hHandler,
            hResult⟩,
          rfl, hNone⟩,
        hEntry⟩

/- What was reported is that of the handler, if called. -/
theorem Performed.own_of_called
    (hPerformed :
      Performed c handlers plugin command args session
        outcome)
    (others : Args)
    (handler : Handler)
    (hCalled : (command, others) ∈ outcome.trace.calls)
    (hHandler : handlers.handler? command = some handler) :
    reportedBy handlers command args session.stdout =
      (handler others session.stdout).events.map
        Log.Event.entry := by
  cases ((hPerformed.mem_calls_iff _).1 hCalled).1
  unfold reportedBy
  rw [hHandler]

theorem Performed.own_of_uncalled
    (hPerformed :
      Performed c handlers plugin command args session
        outcome)
    (hPasses :
      Negotiation.Passes c plugin session.decodings
        args.config command)
    (hUncalled : outcome.trace.calls = []) :
    reportedBy handlers command args session.stdout = [] := by
  rw [hPerformed.calls_of_passes hPasses] at hUncalled
  unfold reportedBy
  cases hHandler : handlers.handler? command with
  | none => rfl
  | some handler =>
      rw [hHandler] at hUncalled
      cases hUncalled

/-
  Behind a negotiation that passes, the handler logs and
  then the check, if it is reached and switched off.
-/
theorem Performed.entries_of_passes
    (hPerformed :
      Performed c handlers plugin command args session
        outcome)
    (hPasses :
      Negotiation.Passes c plugin session.decodings
        args.config command) :
    ∃ negotiated handled overridden,
      Negotiation.Course c plugin command args.config session
          negotiated ∧
        Handled handlers command args negotiated.session
          handled ∧
        outcome.trace.entries =
          negotiated.trace.entries ++
            (handled.trace.entries ++ overridden) ∧
        Log.AreDue
          (fun entry =>
            entersNamespace command = true ∧
              handlers.Finish command args session.stdout ∧
              args.isOverridden = true ∧
              entry = .checkOverridden args.netns)
          overridden := by
  cases hPerformed with
  | refused e hNegotiation hResult =>
      rw [← hNegotiation.result_eq_ok_iff, hResult] at hPasses
      cases hPasses
  | ended negotiated handled hNegotiation hPassed hHandled
      hLast hOutcome =>
      refine
        ⟨negotiated, handled, [], hNegotiation, hHandled, ?_,
          ?_⟩
      · simp [hOutcome]
      · apply Log.areDue_nil
        rintro entry ⟨hEnters, hFinish, _⟩
        rw [← hNegotiation.isQuiet.stdout,
          ← hHandled.result_eq_ok_iff] at hFinish
        rw [hLast hFinish] at hEnters
        cases hEnters
  | checked negotiated handled last hNegotiation hPassed
      hHandled hFinished hEnters hChecked hOutcome =>
      refine
        ⟨negotiated, handled, last.trace.entries,
          hNegotiation, hHandled, ?_, ?_⟩
      · simp [hOutcome]
      · rw [hHandled.result_eq_ok_iff,
          hNegotiation.isQuiet.stdout] at hFinished
        apply hChecked.areDue.congr
        simp [hEnters, hFinished]

theorem Performed.exists_log_of_passes
    (hPerformed :
      Performed c handlers plugin command
        (.ofEnvironment env config) session outcome)
    (hServed : command ≠ .version)
    (hPasses :
      Negotiation.Passes c plugin session.decodings config
        command) :
    ∃ log : CommandLog,
      outcome.trace.entries = log.entries ∧
        log.Tells c env handlers plugin session command
          config outcome := by
  rcases hPerformed.entries_of_passes hPasses with
    ⟨negotiated, handled, overridden, hNegotiation, hHandled,
      hEntries, hOverridden⟩
  rcases hNegotiation.exists_logs hServed with
    ⟨selected, refused, hNegotiated, hSelected, hRefused⟩
  rcases hHandled.exists_logs with
    ⟨failed, hReply, hFailed⟩
  rw [hNegotiation.isQuiet.stdout] at hReply hFailed
  refine
    ⟨{ selected, refused
       own :=
         reportedBy handlers command
           (.ofEnvironment env config) session.stdout
       failed, overridden }, ?_, ?_⟩
  · rw [hEntries, hNegotiated, hReply]
    simp [CommandLog.entries]
  · constructor
    case selected => exact hSelected
    case refused => exact hRefused
    case own_of_uncalled =>
      exact hPerformed.own_of_uncalled hPasses
    case own_of_called => exact hPerformed.own_of_called
    case failed =>
      apply hFailed.congr
      intro entry
      rw [hPerformed.isInternalFailure_iff]
      exact (and_iff_right hPasses).symm
    case overridden =>
      apply hOverridden.congr
      intro entry
      unfold IsOverriding
      rw [entersNamespace_iff, Args.isOverridden_iff]
      constructor
      · rintro ⟨hCommand, hFinish, hOverride, hEntry⟩
        exact
          ⟨hCommand, hPasses, hFinish, hOverride, hEntry⟩
      · rintro ⟨hCommand, _, hFinish, hOverride, hEntry⟩
        exact ⟨hCommand, hFinish, hOverride, hEntry⟩

/- A command that does not pass logs its negotiation. -/
theorem Performed.exists_log_of_not_passes
    (hPerformed :
      Performed c handlers plugin command
        (.ofEnvironment env config) session outcome)
    (hServed : command ≠ .version)
    (hNot :
      ¬ Negotiation.Passes c plugin session.decodings config
        command) :
    ∃ log : CommandLog,
      outcome.trace.entries = log.entries ∧
        log.Tells c env handlers plugin session command
          config outcome := by
  have hCalls := hPerformed.calls_of_not_passes hNot
  have hCourse :
      Negotiation.Course c plugin command config session
        outcome := by
    cases hPerformed with
    | refused e hNegotiation hResult => exact hNegotiation
    | ended negotiated handled hNegotiation hPassed hHandled
        hLast hOutcome =>
        rw [hNegotiation.result_eq_ok_iff] at hPassed
        exact absurd hPassed hNot
    | checked negotiated handled last hNegotiation hPassed
        hHandled hFinished hEnters hChecked hOutcome =>
        rw [hNegotiation.result_eq_ok_iff] at hPassed
        exact absurd hPassed hNot
  rcases hCourse.exists_logs hServed with
    ⟨selected, refused, hNegotiated, hSelected, hRefused⟩
  refine
    ⟨{ selected, refused
       own := [], failed := [], overridden := [] }, ?_, ?_⟩
  · rw [hNegotiated]
    simp [CommandLog.entries]
  · constructor
    case selected => exact hSelected
    case refused => exact hRefused
    case own_of_uncalled =>
      intro _
      rfl
    case own_of_called =>
      intro others handler hCalled
      rw [hCalls] at hCalled
      cases hCalled
    case failed =>
      apply Log.areDue_nil
      intro entry
      rw [hPerformed.isInternalFailure_iff]
      exact fun hInternal => hNot hInternal.1
    case overridden =>
      apply Log.areDue_nil
      exact fun entry hOverriding => hNot hOverriding.2.1

theorem Performed.exists_log
    (hPerformed :
      Performed c handlers plugin command
        (.ofEnvironment env config) session outcome)
    (hServed : command ≠ .version) :
    ∃ log : CommandLog,
      outcome.trace.entries = log.entries ∧
        log.Tells c env handlers plugin session command
          config outcome := by
  by_cases hPasses :
      Negotiation.Passes c plugin session.decodings config
        command
  · exact hPerformed.exists_log_of_passes hServed hPasses
  · exact hPerformed.exists_log_of_not_passes hServed hPasses

end Performed

------------------------------------------------------------
-- The Log of an Invocation
------------------------------------------------------------

section Run

variable (c : Collaborators) (env : Environment)
variable (handlers : Handlers) (plugin : Capabilities)
variable (about : String) (session : Session)

/- All variables that are lacking, in their order. -/
structure ListsLacking
    (env : Environment)
    (absent : List Variable) : Prop where
  sublist : absent.Sublist Variable.all
  mem_iff : ∀ v, v ∈ absent ↔ env.IsLacking v

/-
  What the log of an invocation has to be, for each of the
  ways in which it can go.
-/
structure LogAgrees (outcome : Outcome Unit) : Prop where
  invalid : ¬ env.IsValid → outcome.trace.entries = []
  introduced :
    env.IsValid → ¬ env.IsFilled →
      env .command = "" ∧ about ≠ "" →
        outcome.result = .ok () ∧
          outcome.session.stderr =
            introduction about plugin session.stderr ∧
          ∃ absent,
            ListsLacking env absent ∧
              outcome.trace.entries =
                [.variablesMissing (env .command) absent,
                  .printingInformation]
  missing :
    env.IsValid → ¬ env.IsFilled →
      ¬ (env .command = "" ∧ about ≠ "") →
        outcome.session.stderr = session.stderr ∧
          ∃ absent,
            ListsLacking env absent ∧
              outcome.result =
                .error (Variable.absence absent) ∧
              outcome.trace.entries =
                [.variablesMissing (env .command) absent]
  reported :
    env .command = "VERSION" →
      outcome.trace.entries =
        [.dispatching "VERSION" (env .containerId)
          (env .ifName)]
  unreadable :
    env.IsValid → env.IsFilled → env .command ≠ "VERSION" →
      ∀ failure,
        session.stdin.readToEnd.1 = .error failure →
          outcome.trace.entries = []
  unusable :
    env.IsValid → env.IsFilled → env .command ≠ "VERSION" →
      ∀ config e,
        session.stdin.readToEnd.1 = .ok config →
        NetworkConfig.check config = .error e →
          outcome.trace.entries = []
  unknown :
    env .command ∉
        ["", "ADD", "CHECK", "DEL", "GC", "VERSION"] →
      outcome.trace.entries = []
  performed :
    env.IsValid → env.IsFilled →
      ∀ command config,
        env .command = command.name → command ≠ .version →
        session.stdin.readToEnd.1 = .ok config →
        NetworkConfig.check config = .ok () →
          ∃ log : CommandLog,
            outcome.trace.entries =
                .dispatching command.name (env .containerId)
                    (env .ifName) ::
                  log.entries ∧
              log.Tells c env handlers plugin session command
                config outcome

variable {c env handlers plugin about session}
variable {outcome : Outcome Unit}

/- A command that is set needs no introduction. -/
theorem not_introduced_of_isFilled
    (hFilled : env.IsFilled) :
    ¬ (env .command = "" ∧ about ≠ "") :=
  fun hAll => hFilled .command ⟨trivial, hAll.1⟩

/- Without a command there is no identifier to refuse. -/
theorem not_introduced_of_not_isValid
    (hNot : ¬ env.IsValid) :
    ¬ (env .command = "" ∧ about ≠ "") := by
  rintro ⟨hEmpty, _⟩
  apply hNot
  apply Request.isValid_of_unknown
  rw [Environment.command?, hEmpty, Command.ofName?_empty]

theorem listsLacking_absent :
    ListsLacking env env.absent :=
  ⟨env.absent_sublist, env.mem_absent_iff⟩

/- What is missing is logged before anything else. -/
theorem resolve_eq_of_not_isFilled
    (hValid : env.IsValid)
    (hNot : ¬ env.IsFilled) :
    Request.resolve env session =
      ⟨.error (Environment.missing env.absent),
        [.logged
          (.variablesMissing (env .command) env.absent)],
        session⟩ := by
  rw [← env.findSome?_fault?_eq_none_iff] at hValid
  rw [← env.absent_eq_nil_iff] at hNot
  cases hAbsent : env.absent with
  | nil => exact absurd hAbsent hNot
  | cons v more =>
      exact
        Request.resolve_eq_of_absent env session hValid
          hAbsent

theorem run_eq_of_introduction
    (hValid : env.IsValid)
    (hNot : ¬ env.IsFilled)
    (hWants : env .command = "" ∧ about ≠ "") :
    run c env handlers plugin about session =
      ⟨.ok (),
        [.logged
            (.variablesMissing (env .command) env.absent),
          .logged .printingInformation],
        { session with
          stderr :=
            introduction about plugin session.stderr }⟩ := by
  have hIntroduce :
      wantsIntroduction env about
          (Environment.missing env.absent) =
        true :=
    (wantsIntroduction_iff _).2 ⟨rfl, hWants⟩
  rw [run_of_resolve_error
      (resolve_eq_of_not_isFilled hValid hNot),
    if_pos hIntroduce]
  rfl

/- Where nothing is missing, a request logs nothing. -/
theorem trace_eq_nil_of_isFilled
    (hFilled : env.IsFilled)
    {result : Except PluginError Request}
    {trace : Trace}
    {after : Session}
    (hResolve :
      Request.resolve env session =
        ⟨result, trace, after⟩) :
    trace = [] := by
  have hRequest := Request.resolve_course env session
  rw [hResolve] at hRequest
  cases hRequest with
  | missing v more hAbsent hOutcome =>
      rw [env.absent_eq_nil_iff.2 hFilled] at hAbsent
      cases hAbsent
  | _ =>
      rename_i hOutcome
      exact congrArg Outcome.trace hOutcome

theorem Course.entries_of_unknown
    (hCourse :
      Course c env handlers plugin about session outcome)
    (hUnknown : env.command? = none)
    (hSet : env .command ≠ "") :
    outcome.trace.entries = [] := by
  cases hCourse with
  | introduced e trace after hResolve hWants hOutcome =>
      exact absurd (command_of_wantsIntroduction hWants) hSet
  | unresolved e trace after hResolve hWants hOutcome =>
      have hFilled :=
        Request.isFilled_of_unknown hUnknown hSet
      rw [hOutcome, trace_eq_nil_of_isFilled hFilled hResolve]
      rfl
  | reported hAccepted hCommand hOutcome =>
      rw [Environment.command?, hCommand,
        Command.ofName?_name] at hUnknown
      cases hUnknown
  | unknown config hReads hRead hCheck hCommand hOutcome =>
      rw [hOutcome]
      rfl
  | performed config command inner hReads hRead hCheck
      hCommand hPerformed hOutcome =>
      rw [hUnknown] at hCommand
      cases hCommand

/- The log of a command is that of its performance. -/
theorem Course.exists_log
    (hCourse :
      Course c env handlers plugin about session outcome)
    (hReads : Request.Reads env)
    {config : Bytes}
    (hRead : session.stdin.readToEnd.1 = .ok config)
    (hCheck : NetworkConfig.check config = .ok ())
    {command : Command}
    (hNamed : env .command = command.name)
    (hServed : command ≠ .version) :
    ∃ log : CommandLog,
      outcome.trace.entries =
          .dispatching command.name (env .containerId)
              (env .ifName) ::
            log.entries ∧
        log.Tells c env handlers plugin session command config
          outcome := by
  rw [← Command.ofName?_eq_some_iff] at hNamed
  have hResolved :=
    Request.resolve_eq_ok env hReads hRead hCheck
  cases hCourse with
  | introduced e trace after hResolve hWants hOutcome =>
      rw [hResolve] at hResolved
      cases hResolved
  | unresolved e trace after hResolve hWants hOutcome =>
      rw [hResolve] at hResolved
      cases hResolved
  | reported hAccepted hCommand hOutcome =>
      exact absurd hCommand hReads.2
  | unknown other _ _ _ hCommand hOutcome =>
      rw [Environment.command?, hNamed] at hCommand
      cases hCommand
  | performed other named inner _ hOther _ hCommand
      hPerformed hOutcome =>
      rw [hRead] at hOther
      cases hOther
      rw [Environment.command?, hNamed] at hCommand
      cases hCommand
      rcases hPerformed.exists_log hServed with
        ⟨log, hEntries, hTells⟩
      subst hOutcome
      refine ⟨log, ?_, hTells.behind⟩
      simp [hEntries]

end Run

/-
  The log of an invocation agrees with all that happened:
  every entry is there exactly when it is due, and no other
  entry is, whatever the collaborators do.
-/
theorem run_log_agrees
    (c : Collaborators)
    (env : Environment)
    (handlers : Handlers)
    (plugin : Capabilities)
    (about : String)
    (session : Session) :
    LogAgrees c env handlers plugin about session
      (run c env handlers plugin about session) := by
  have hCourse :=
    run_course c env handlers plugin about session
  constructor
  case invalid =>
    intro hNot
    have hWants :
        ¬ (env .command = "" ∧ about ≠ "") :=
      not_introduced_of_not_isValid hNot
    rw [← env.findSome?_fault?_eq_none_iff] at hNot
    rcases Option.ne_none_iff_exists'.1 hNot with
      ⟨e, hFault⟩
    rw [run_eq_of_resolve_error
      (Request.resolve_eq_of_fault env session hFault)
      hWants]
    rfl
  case introduced =>
    intro hValid hNot hWants
    rw [run_eq_of_introduction hValid hNot hWants]
    exact ⟨rfl, rfl, env.absent, listsLacking_absent, rfl⟩
  case missing =>
    intro hValid hNot hWants
    rw [run_eq_of_resolve_error
      (resolve_eq_of_not_isFilled hValid hNot) hWants]
    exact ⟨rfl, env.absent, listsLacking_absent, rfl, rfl⟩
  case reported =>
    intro hCommand
    rw [run_of_version c handlers plugin about session
      hCommand]
    rfl
  case unreadable =>
    intro hValid hFilled hOther failure hRead
    have hAccepted :=
      env.isAccepted_iff_isFilled.2 ⟨hValid, hFilled⟩
    rw [run_eq_of_resolve_error
      (Request.resolve_eq_of_unreadable env
        ⟨hAccepted, hOther⟩ hRead)
      (not_introduced_of_isFilled hFilled)]
    rfl
  case unusable =>
    intro hValid hFilled hOther config e hRead hCheck
    have hAccepted :=
      env.isAccepted_iff_isFilled.2 ⟨hValid, hFilled⟩
    rw [run_eq_of_resolve_error
      (Request.resolve_eq_of_unusable env
        ⟨hAccepted, hOther⟩ hRead hCheck)
      (not_introduced_of_isFilled hFilled)]
    rfl
  case unknown =>
    intro hOther
    rw [List.mem_cons, not_or] at hOther
    apply hCourse.entries_of_unknown _ hOther.1
    exact env.command?_eq_none hOther.2
  case performed =>
    intro hValid hFilled command config hNamed hServed hRead
      hCheck
    have hAccepted :=
      env.isAccepted_iff_isFilled.2 ⟨hValid, hFilled⟩
    have hOther : env .command ≠ Command.version.name := by
      rw [← Command.ofName?_eq_some_iff] at hNamed
      intro hReport
      rw [← Command.ofName?_eq_some_iff, hNamed] at hReport
      exact hServed (Option.some.inj hReport)
    exact
      hCourse.exists_log ⟨hAccepted, hOther⟩ hRead hCheck
        hNamed hServed

/- A handler of CHECK fails behind the selection. -/
example :
    (run { namespaces := .fixed none none }
      (.ofPairs
        [("CNI_COMMAND", "CHECK"), ("CNI_CONTAINERID", "a"),
          ("CNI_NETNS", "/ns"), ("CNI_IFNAME", "eth0"),
          ("CNI_PATH", "/bin")])
      { check := some (.silent fun _ => .error (.ofText "no")) }
      (.supporting [⟨"0.3.1"⟩, ⟨"0.4.0"⟩, ⟨"1.0.0"⟩]) ""
      { stdin :=
          [.chunk
            (Utf8.encode
              "\x7b\"cniVersion\":\"0.4.0\",\"name\":\"n\"\x7d")
          ] }).trace.entries =
      [.dispatching "CHECK" "a" "eth0",
        .versionSelected ⟨"0.4.0"⟩ ⟨"0.4.0"⟩ "CHECK",
        .handlerFailed "no"] := by
  decide +kernel

end Invocation

end NetPlugin
