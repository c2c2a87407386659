import NetPlugin.Proofs.HandlerGate
import NetPlugin.Proofs.ReportForm

/-
  What an invocation writes, and what it logs about it.

  The report of the VERSION command is all that is written
  to the standard output when the handlers leave it alone;
  the error stream only has introductions.  That an error
  could not be written is not for an invocation to say.

  Main declarations:
    * `Handlers.LeaveOutput`
    * `Invocation.Writes` and `Invocation.Course.writes`
    * `Invocation.Course.stderr_of_error`
    * `Trace.ReportsUnwritten`
    * `Invocation.Course.exists_event`
-/

------------------------------------------------------------
-- Handlers
------------------------------------------------------------

namespace NetPlugin

/- Handlers that write nothing to the standard output. -/
def Handlers.LeaveOutput (handlers : Handlers) : Prop :=
  ∀ command handler,
    handlers.handler? command = some handler →
      ∀ args stdout, (handler args stdout).stdout = stdout

/- Handlers that write nothing at all. -/
theorem Handlers.leaveOutput_three
    (add check del : Args → Except HandlerError Unit) :
    (three (.silent add) (.silent check)
      (.silent del)).LeaveOutput := by
  intro command handler hHandler args stdout
  cases command <;> cases hHandler <;> rfl

namespace Request

variable {env : Environment} {session : Session}
variable {outcome : Outcome Request}

/- A request reads, but it does not write. -/
theorem Course.streams
    (hCourse : Course env session outcome) :
    outcome.session.stdout = session.stdout ∧
      outcome.session.stderr = session.stderr := by
  by_cases hReads : Reads env
  · rw [hCourse.session_of_reads hReads]
    exact ⟨rfl, rfl⟩
  · rw [hCourse.session_of_not_reads hReads]
    exact ⟨rfl, rfl⟩

theorem streams_of_resolve
    {result : Except PluginError Request}
    {trace : Trace}
    {after : Session}
    (hResolve :
      resolve env session = ⟨result, trace, after⟩) :
    after.stdout = session.stdout ∧
      after.stderr = session.stderr := by
  have hCourse := resolve_course env session
  rw [hResolve] at hCourse
  exact hCourse.streams

end Request

namespace Invocation

section Performed

variable {c : Collaborators} {handlers : Handlers}
variable {plugin : Capabilities} {command : Command}
variable {args : Args} {session : Session}
variable {outcome : Outcome Unit}

theorem Handled.stdout_of_leaveOutput
    (hHandled :
      Handled handlers command args session outcome)
    (hLeave : handlers.LeaveOutput) :
    outcome.session.stdout = session.stdout := by
  cases hHandled with
  | unset hHandler hOutcome => rw [hOutcome]
  | finished handler hHandler hResult hOutcome =>
      rw [hOutcome, Session.afterReply_stdout]
      exact hLeave command handler hHandler args _
  | failed handler failure hHandler hResult hOutcome =>
      rw [hOutcome, Session.afterReply_stdout]
      exact hLeave command handler hHandler args _

/- A command writes what its handler writes. -/
theorem Performed.stdout_of_leaveOutput
    (hPerformed :
      Performed c handlers plugin command args session
        outcome)
    (hLeave : handlers.LeaveOutput) :
    outcome.session.stdout = session.stdout := by
  cases hPerformed with
  | refused e hNegotiation hResult =>
      exact hNegotiation.isQuiet.stdout
  | ended negotiated handled hNegotiation hPassed hHandled
      hLast hOutcome =>
      rw [hOutcome, Outcome.behind_session,
        hHandled.stdout_of_leaveOutput hLeave,
        hNegotiation.isQuiet.stdout]
  | checked negotiated handled last hNegotiation hPassed
      hHandled hFinished hEnters hChecked hOutcome =>
      rw [hOutcome, Outcome.behind_session,
        Outcome.behind_session, hChecked.leaves.session_eq,
        hHandled.stdout_of_leaveOutput hLeave,
        hNegotiation.isQuiet.stdout]

theorem Performed.stderr
    (hPerformed :
      Performed c handlers plugin command args session
        outcome) :
    outcome.session.stderr = session.stderr := by
  cases hPerformed with
  | refused e hNegotiation hResult =>
      exact hNegotiation.isQuiet.stderr
  | ended negotiated handled hNegotiation hPassed hHandled
      hLast hOutcome =>
      rw [hOutcome, Outcome.behind_session,
        hHandled.leaves.stderr, hNegotiation.isQuiet.stderr]
  | checked negotiated handled last hNegotiation hPassed
      hHandled hFinished hEnters hChecked hOutcome =>
      rw [hOutcome, Outcome.behind_session,
        Outcome.behind_session, hChecked.leaves.session_eq,
        hHandled.leaves.stderr, hNegotiation.isQuiet.stderr]

end Performed

------------------------------------------------------------
-- Whole Invocations
------------------------------------------------------------

section Streams

variable {c : Collaborators} {env : Environment}
variable {handlers : Handlers} {plugin : Capabilities}
variable {about : String} {session : Session}
variable {outcome : Outcome Unit}

/-
  What an invocation writes to the standard output: nothing,
  or the report of the VERSION command.
-/
inductive Writes
    (env : Environment)
    (plugin : Capabilities)
    (session : Session)
    (outcome : Outcome Unit) : Prop
  | nothing
      (hStdout : outcome.session.stdout = session.stdout)
      (hOther :
        outcome.result = .ok () →
          env .command ≠ Command.version.name)
  | report
      (hCommand : env .command = Command.version.name)
      (hResult :
        outcome.result =
          (session.stdout.printPieces
            plugin.printed).1.mapError Step.unwritableOutput)
      (hStdout :
        outcome.session.stdout =
          (session.stdout.printPieces plugin.printed).2)

theorem Course.writes
    (hCourse :
      Course c env handlers plugin about session outcome)
    (hLeave : handlers.LeaveOutput) :
    Writes env plugin session outcome := by
  cases hCourse with
  | introduced e trace after hResolve hWants hOutcome =>
      have hCommand := command_of_wantsIntroduction hWants
      have hStreams := Request.streams_of_resolve hResolve
      apply Writes.nothing
      · rw [hOutcome]
        exact hStreams.1
      · intro _
        rw [hCommand]
        decide
  | unresolved e trace after hResolve hWants hOutcome =>
      have hStreams := Request.streams_of_resolve hResolve
      apply Writes.nothing
      · rw [hOutcome]
        exact hStreams.1
      · intro hFinished
        rw [hOutcome] at hFinished
        cases hFinished
  | reported hAccepted hCommand hOutcome =>
      apply Writes.report hCommand
      · rw [hOutcome]
        rfl
      · rw [hOutcome]
        rfl
  | unknown config hReads hRead hCheck hCommand hOutcome =>
      apply Writes.nothing
      · rw [hOutcome]
        rfl
      · intro _
        exact hReads.2
  | performed config command inner hReads hRead hCheck
      hCommand hPerformed hOutcome =>
      apply Writes.nothing
      · rw [hOutcome, Outcome.behind_session,
          hPerformed.stdout_of_leaveOutput hLeave]
        rfl
      · intro _
        exact hReads.2

/- Where everything can be written, an error writes nothing. -/
theorem Writes.stdout_of_error
    (hWrites : Writes env plugin session outcome)
    (hWritable : session.stdout.IsWritable)
    {e : PluginError}
    (hError : outcome.result = .error e) :
    outcome.session.stdout = session.stdout := by
  cases hWrites with
  | nothing hStdout hOther => exact hStdout
  | report hCommand hResult hStdout =>
      rw [Sink.printPieces_of_isWritable hWritable, hError]
        at hResult
      cases hResult

/- Only the VERSION command writes anything. -/
theorem Writes.stdout_of_command_ne
    (hWrites : Writes env plugin session outcome)
    (hOther : env .command ≠ Command.version.name) :
    outcome.session.stdout = session.stdout := by
  cases hWrites with
  | nothing hStdout _ => exact hStdout
  | report hCommand hResult hStdout =>
      exact absurd hCommand hOther

/- A success has written the whole report, or nothing. -/
theorem Writes.written_of_ok
    (hWrites : Writes env plugin session outcome)
    (hFinished : outcome.result = .ok ()) :
    outcome.session.stdout.written =
      session.stdout.written ++
        if env .command = Command.version.name then
          plugin.report
        else [] := by
  cases hWrites with
  | nothing hStdout hOther =>
      rw [hStdout, if_neg (hOther hFinished),
        List.append_nil]
  | report hCommand hResult hStdout =>
      rw [if_pos hCommand, hStdout, ← plugin.encodeAll_printed]
      apply Sink.written_of_printPieces
      cases hPrint : session.stdout.printPieces plugin.printed
        with
      | mk printed after =>
          rw [hPrint, hFinished] at hResult
          cases printed with
          | ok done => rfl
          | error failure => cases hResult

/- Only introductions are written to the error stream. -/
theorem Course.stderr_cases
    (hCourse :
      Course c env handlers plugin about session outcome) :
    outcome.session.stderr = session.stderr ∨
      env .command = "" ∧ about ≠ "" ∧
        outcome.result = .ok () ∧
        outcome.session.stderr =
          introduction about plugin session.stderr := by
  cases hCourse with
  | introduced e trace after hResolve hWants hOutcome =>
      have hStreams := Request.streams_of_resolve hResolve
      have hIntroduced := (wantsIntroduction_iff e).1 hWants
      right
      refine ⟨hIntroduced.2.1, hIntroduced.2.2, ?_, ?_⟩
      · rw [hOutcome]
      · rw [hOutcome, ← hStreams.2]
  | unresolved e trace after hResolve hWants hOutcome =>
      left
      rw [hOutcome]
      exact (Request.streams_of_resolve hResolve).2
  | reported hAccepted hCommand hOutcome =>
      left
      rw [hOutcome]
      rfl
  | unknown config hReads hRead hCheck hCommand hOutcome =>
      left
      rw [hOutcome]
      rfl
  | performed config command inner hReads hRead hCheck
      hCommand hPerformed hOutcome =>
      left
      rw [hOutcome, Outcome.behind_session, hPerformed.stderr]
      rfl

/- An error is not introduced. -/
theorem Course.stderr_of_error
    (hCourse :
      Course c env handlers plugin about session outcome)
    {e : PluginError}
    (hError : outcome.result = .error e) :
    outcome.session.stderr = session.stderr := by
  rcases hCourse.stderr_cases with
    hSame | ⟨_, _, hFinished, _⟩
  · exact hSame
  · rw [hError] at hFinished
    cases hFinished

end Streams

end Invocation

------------------------------------------------------------
-- Events
------------------------------------------------------------

/- Whether a trace says that an error was not written. -/
def Trace.ReportsUnwritten (trace : Trace) : Prop :=
  ∃ message, .errorNotWritten message ∈ trace.events

@[simp]
theorem Trace.reportsUnwritten_append
    (first second : Trace) :
    Trace.ReportsUnwritten (first ++ second) ↔
      first.ReportsUnwritten ∨ second.ReportsUnwritten := by
  simp [ReportsUnwritten, exists_or]

@[simp]
theorem Trace.reportsUnwritten_cons
    (observation : Observation)
    (rest : Trace) :
    Trace.ReportsUnwritten (observation :: rest) ↔
      (∃ message,
          observation =
            .logged (.errorNotWritten message)) ∨
        Trace.ReportsUnwritten rest := by
  cases observation <;>
    simp [ReportsUnwritten, Trace.events, exists_or, eq_comm]

@[simp]
theorem Trace.reportsUnwritten_nil :
    ¬ Trace.ReportsUnwritten [] := by
  simp [ReportsUnwritten, Trace.events]

@[simp]
theorem Trace.reportsUnwritten_map_logged
    (events : List Log.Event) :
    Trace.ReportsUnwritten (events.map .logged) ↔
      ∃ message, .errorNotWritten message ∈ events := by
  induction events with
  | nil => simp
  | cons event rest ih =>
      simp [ih, exists_or, eq_comm]

theorem Request.Course.not_reportsUnwritten
    {env : Environment}
    {session : Session}
    {outcome : Outcome Request}
    (hCourse : Course env session outcome) :
    ¬ outcome.trace.ReportsUnwritten := by
  cases hCourse with
  | _ =>
      rename_i hOutcome
      simp [hOutcome]

theorem Request.not_reportsUnwritten_of_resolve
    {env : Environment}
    {session : Session}
    {result : Except PluginError Request}
    {trace : Trace}
    {after : Session}
    (hResolve :
      resolve env session = ⟨result, trace, after⟩) :
    ¬ trace.ReportsUnwritten := by
  have hCourse := resolve_course env session
  rw [hResolve] at hCourse
  exact hCourse.not_reportsUnwritten

theorem Negotiation.AgreeCourse.not_reportsUnwritten
    {c : Collaborators}
    {plugin : Capabilities}
    {config : Bytes}
    {session : Session}
    {outcome : Outcome Unit}
    (hCourse :
      AgreeCourse c plugin config session outcome) :
    ¬ outcome.trace.ReportsUnwritten := by
  cases hCourse with
  | _ =>
      rename_i hOutcome
      simp [hOutcome]

theorem Negotiation.Course.not_reportsUnwritten
    {c : Collaborators}
    {plugin : Capabilities}
    {command : Command}
    {config : Bytes}
    {session : Session}
    {outcome : Outcome Unit}
    (hCourse :
      Course c plugin command config session outcome) :
    ¬ outcome.trace.ReportsUnwritten := by
  cases hCourse with
  | unfloored _ hAgree => exact hAgree.not_reportsUnwritten
  | selected floor version candidate inner _ _ _ _ _ hAgree
      hOutcome =>
      simpa [hOutcome] using hAgree.not_reportsUnwritten
  | _ =>
      rename_i hOutcome
      simp [hOutcome]

namespace Invocation

theorem Checked.not_reportsUnwritten
    {c : Collaborators}
    {args : Args}
    {session : Session}
    {outcome : Outcome Unit}
    (hChecked : Checked c args session outcome) :
    ¬ outcome.trace.ReportsUnwritten := by
  cases hChecked with
  | _ =>
      rename_i hOutcome
      simp [hOutcome]

theorem warnings_ne_errorNotWritten
    (failure : HandlerError)
    (message : String) :
    .errorNotWritten message ∉ failure.warnings := by
  unfold HandlerError.warnings
  split <;> simp

/- Handlers report what they like, and nobody else does. -/
theorem Handled.exists_event
    {handlers : Handlers}
    {command : Command}
    {args : Args}
    {session : Session}
    {outcome : Outcome Unit}
    (hHandled :
      Handled handlers command args session outcome)
    (hReports : outcome.trace.ReportsUnwritten) :
    ∃ handler message,
      handlers.handler? command = some handler ∧
        .errorNotWritten message ∈
          (handler args session.stdout).events := by
  cases hHandled with
  | unset hHandler hOutcome =>
      rw [hOutcome] at hReports
      exact absurd hReports Trace.reportsUnwritten_nil
  | finished handler hHandler hResult hOutcome =>
      simp only [hOutcome, Step.replyTrace,
        Trace.reportsUnwritten_cons,
        Trace.reportsUnwritten_map_logged, reduceCtorEq,
        exists_false, false_or] at hReports
      rcases hReports with ⟨message, hMem⟩
      exact ⟨handler, message, hHandler, hMem⟩
  | failed handler failure hHandler hResult hOutcome =>
      simp only [hOutcome, Step.replyTrace,
        Trace.reportsUnwritten_append,
        Trace.reportsUnwritten_cons,
        Trace.reportsUnwritten_map_logged, reduceCtorEq,
        exists_false, false_or,
        warnings_ne_errorNotWritten, or_false] at hReports
      rcases hReports with ⟨message, hMem⟩
      exact ⟨handler, message, hHandler, hMem⟩

/- So it is the called handler that reports it. -/
theorem Performed.exists_event
    {c : Collaborators}
    {handlers : Handlers}
    {plugin : Capabilities}
    {command : Command}
    {args : Args}
    {session : Session}
    {outcome : Outcome Unit}
    (hPerformed :
      Performed c handlers plugin command args session
        outcome)
    (hReports : outcome.trace.ReportsUnwritten) :
    (command, args) ∈ outcome.trace.calls ∧
      ∃ handler message,
        handlers.handler? command = some handler ∧
          .errorNotWritten message ∈
            (handler args session.stdout).events := by
  cases hPerformed with
  | refused e hNegotiation hResult =>
      exact absurd hReports hNegotiation.not_reportsUnwritten
  | ended negotiated handled hNegotiation hPassed hHandled
      hLast hOutcome =>
      have hHandler : handled.trace.ReportsUnwritten := by
        simpa [hOutcome, hNegotiation.not_reportsUnwritten]
          using hReports
      rcases hHandled.exists_event hHandler with
        ⟨handler, message, hSet, hMem⟩
      rw [hNegotiation.isQuiet.stdout] at hMem
      refine ⟨?_, handler, message, hSet, hMem⟩
      simp [hOutcome, hHandled.mem_calls hSet]
  | checked negotiated handled last hNegotiation hPassed
      hHandled hFinished hEnters hChecked hOutcome =>
      have hHandler : handled.trace.ReportsUnwritten := by
        simpa [hOutcome, hNegotiation.not_reportsUnwritten,
          hChecked.not_reportsUnwritten] using hReports
      rcases hHandled.exists_event hHandler with
        ⟨handler, message, hSet, hMem⟩
      rw [hNegotiation.isQuiet.stdout] at hMem
      refine ⟨?_, handler, message, hSet, hMem⟩
      simp [hOutcome, hHandled.mem_calls hSet]

theorem Course.exists_event
    {c : Collaborators}
    {env : Environment}
    {handlers : Handlers}
    {plugin : Capabilities}
    {about : String}
    {session : Session}
    {outcome : Outcome Unit}
    (hCourse :
      Course c env handlers plugin about session outcome)
    (hReports : outcome.trace.ReportsUnwritten) :
    ∃ command args handler message,
      (command, args) ∈ outcome.trace.calls ∧
        handlers.handler? command = some handler ∧
        .errorNotWritten message ∈
          (handler args session.stdout).events := by
  cases hCourse with
  | introduced e trace after hResolve hWants hOutcome =>
      have hNot :=
        Request.not_reportsUnwritten_of_resolve hResolve
      simp [hOutcome, hNot] at hReports
  | unresolved e trace after hResolve hWants hOutcome =>
      have hNot :=
        Request.not_reportsUnwritten_of_resolve hResolve
      simp [hOutcome, hNot] at hReports
  | reported hAccepted hCommand hOutcome =>
      simp [hOutcome, Step.print] at hReports
  | unknown config hReads hRead hCheck hCommand hOutcome =>
      simp [hOutcome] at hReports
  | performed config command inner hReads hRead hCheck
      hCommand hPerformed hOutcome =>
      have hInner : inner.trace.ReportsUnwritten := by
        simpa [hOutcome] using hReports
      rcases hPerformed.exists_event hInner with
        ⟨hCalled, handler, message, hSet, hMem⟩
      refine
        ⟨command, _, handler, message, ?_, hSet, hMem⟩
      simp [hOutcome, hCalled]

end Invocation

end NetPlugin
