import NetPlugin.Invocation
import NetPlugin.Proofs.Negotiation
import NetPlugin.Proofs.Request

/-
  How an invocation goes.

  An invocation is made of parts: the request, the
  negotiation, the call of the handler, and the check of
  the namespace.  Each part has the list of its courses,
  and every statement about whole invocations is a case
  analysis of these.

  Main declarations:
    * `Invocation.Handled` and `callIfSet_handled`
    * `Invocation.Checked` and `checkNamespace_checked`
    * `Invocation.Performed` and `perform_performed`
    * `Invocation.Course` and `run_course`
-/

------------------------------------------------------------
-- Handlers
------------------------------------------------------------

namespace NetPlugin

/- The session after a handler wrote its output. -/
def Session.afterReply
    (session : Session)
    (reply : Reply) : Session :=
  { session with stdout := reply.stdout }

@[simp]
theorem Session.afterReply_stdin
    (session : Session)
    (reply : Reply) :
    (session.afterReply reply).stdin = session.stdin := rfl

@[simp]
theorem Session.afterReply_stdout
    (session : Session)
    (reply : Reply) :
    (session.afterReply reply).stdout = reply.stdout := rfl

@[simp]
theorem Session.afterReply_stderr
    (session : Session)
    (reply : Reply) :
    (session.afterReply reply).stderr = session.stderr := rfl

@[simp]
theorem Session.afterReply_decodings
    (session : Session)
    (reply : Reply) :
    (session.afterReply reply).decodings =
      session.decodings := rfl

/- A reply is one call, whatever the handler reports. -/
@[simp]
theorem Step.calls_replyTrace
    (command : Command)
    (args : Args)
    (reply : Reply) :
    (replyTrace command args reply).calls =
      [(command, args)] := by
  simp [replyTrace]

@[simp]
theorem Step.queries_replyTrace
    (command : Command)
    (args : Args)
    (reply : Reply) :
    (replyTrace command args reply).queries = [] := by
  simp [replyTrace]

@[simp]
theorem Step.reconciliations_replyTrace
    (command : Command)
    (args : Args)
    (reply : Reply) :
    (replyTrace command args reply).reconciliations =
      [] := by
  simp [replyTrace]

namespace Invocation

section Handlers

variable (handlers : Handlers) (command : Command)
variable (args : Args) (session : Session)

/- The handler of a command, its success or its failure. -/
inductive Handled (outcome : Outcome Unit) : Prop
  | unset
      (hHandler : handlers.handler? command = none)
      (hOutcome : outcome = ⟨.ok (), [], session⟩)
  | finished
      (handler : Handler)
      (hHandler : handlers.handler? command = some handler)
      (hResult :
        (handler args session.stdout).result = .ok ())
      (hOutcome :
        outcome =
          ⟨.ok (),
            Step.replyTrace command args
              (handler args session.stdout),
            session.afterReply
              (handler args session.stdout)⟩)
  | failed
      (handler : Handler)
      (failure : HandlerError)
      (hHandler : handlers.handler? command = some handler)
      (hResult :
        (handler args session.stdout).result =
          .error failure)
      (hOutcome :
        outcome =
          ⟨.error failure.classify,
            Step.replyTrace command args
                (handler args session.stdout) ++
              failure.warnings.map .logged,
            session.afterReply
              (handler args session.stdout)⟩)

theorem callIfSet_handled :
    Handled handlers command args session
      (callIfSet handlers command args session) := by
  unfold callIfSet
  cases hHandler : handlers.handler? command with
  | none => exact .unset hHandler rfl
  | some handler =>
      cases hResult :
          (handler args session.stdout).result with
      | ok finished =>
          apply Handled.finished handler hHandler hResult
          simp only [Step.callHandler, hResult]
          rfl
      | error failure =>
          apply Handled.failed handler failure hHandler
            hResult
          simp only [Step.callHandler, hResult]
          rfl

variable {handlers command args session}
variable {outcome : Outcome Unit}

/-
  A handler that is set is called; nobody else is called or
  asked, and nothing but the output can change.
-/
structure Handled.Leaves
    (handlers : Handlers)
    (command : Command)
    (args : Args)
    (session : Session)
    (outcome : Outcome Unit) : Prop where
  calls :
    outcome.trace.calls =
      if (handlers.handler? command).isSome then
        [(command, args)]
      else []
  queries : outcome.trace.queries = []
  reconciliations : outcome.trace.reconciliations = []
  stdin : outcome.session.stdin = session.stdin
  stdout :
    ∀ handler,
      handlers.handler? command = some handler →
        outcome.session.stdout =
          (handler args session.stdout).stdout
  stderr : outcome.session.stderr = session.stderr
  decodings :
    outcome.session.decodings = session.decodings

theorem Handled.leaves
    (hHandled :
      Handled handlers command args session outcome) :
    Handled.Leaves handlers command args session
      outcome := by
  cases hHandled with
  | unset hHandler hOutcome =>
      constructor <;> simp [hHandler, hOutcome]
  | finished handler hHandler hResult hOutcome =>
      constructor <;> simp [hHandler, hOutcome]
  | failed handler failure hHandler hResult hOutcome =>
      constructor <;> simp [hHandler, hOutcome]

/- Behind a success, a handler that is set has succeeded. -/
theorem Handled.succeeded
    (hHandled :
      Handled handlers command args session outcome)
    (hFinished : outcome.result = .ok ())
    {handler : Handler}
    (hHandler : handlers.handler? command = some handler) :
    (handler args session.stdout).result = .ok () := by
  cases hHandled with
  | unset hUnset hOutcome =>
      rw [hHandler] at hUnset
      cases hUnset
  | finished other hOther hResult hOutcome =>
      rw [hHandler] at hOther
      cases hOther
      exact hResult
  | failed other failure hOther hResult hOutcome =>
      rw [hOutcome] at hFinished
      cases hFinished

/- An error is the classified failure of the handler. -/
theorem Handled.error_cases
    (hHandled :
      Handled handlers command args session outcome)
    {e : PluginError}
    (hError : outcome.result = .error e) :
    ∃ handler failure,
      handlers.handler? command = some handler ∧
        (handler args session.stdout).result =
          .error failure ∧
        e = failure.classify := by
  cases hHandled with
  | unset hUnset hOutcome =>
      rw [hOutcome] at hError
      cases hError
  | finished handler hHandler hResult hOutcome =>
      rw [hOutcome] at hError
      cases hError
  | failed handler failure hHandler hResult hOutcome =>
      rw [hOutcome] at hError
      exact
        ⟨handler, failure, hHandler, hResult,
          (Except.error.inj hError).symm⟩

/- A handler that is set is called with the arguments. -/
theorem Handled.mem_calls
    (hHandled :
      Handled handlers command args session outcome)
    {handler : Handler}
    (hHandler : handlers.handler? command = some handler) :
    (command, args) ∈ outcome.trace.calls := by
  rw [hHandled.leaves.calls, hHandler]
  simp

end Handlers

------------------------------------------------------------
-- The Check of the Namespace
------------------------------------------------------------

section Namespaces

variable (c : Collaborators) (args : Args)
variable (session : Session)

/- The namespace is not checked, or one of three answers. -/
inductive Checked (outcome : Outcome Unit) : Prop
  | overridden
      (hOverridden : args.isOverridden = true)
      (hOutcome :
        outcome =
          ⟨.ok (),
            [.logged (.checkOverridden args.netns)],
            session⟩)
  | unanswered
      (e : PluginError)
      (hOverridden : args.isOverridden = false)
      (hAnswer : c.namespaces args.netns = .error e)
      (hOutcome :
        outcome =
          ⟨.error e, [.asked args.netns], session⟩)
  | own
      (hOverridden : args.isOverridden = false)
      (hAnswer : c.namespaces args.netns = .ok true)
      (hOutcome :
        outcome =
          ⟨.error Netns.ownNamespace, [.asked args.netns],
            session⟩)
  | other
      (hOverridden : args.isOverridden = false)
      (hAnswer : c.namespaces args.netns = .ok false)
      (hOutcome :
        outcome = ⟨.ok (), [.asked args.netns], session⟩)

theorem checkNamespace_checked :
    Checked c args session
      (checkNamespace c args session) := by
  unfold checkNamespace
  cases hOverridden : args.isOverridden with
  | true => exact .overridden hOverridden rfl
  | false =>
      rw [if_neg (by simp), Step.bind_observe]
      cases hAnswer : c.namespaces args.netns with
      | error e =>
          exact .unanswered e hOverridden hAnswer rfl
      | ok isOwn =>
          cases isOwn with
          | true => exact .own hOverridden hAnswer rfl
          | false => exact .other hOverridden hAnswer rfl

variable {c args session} {outcome : Outcome Unit}

/- The namespace is asked for once, or not at all. -/
structure Checked.Leaves
    (session : Session)
    (outcome : Outcome Unit) : Prop where
  calls : outcome.trace.calls = []
  queries : outcome.trace.queries.length ≤ 1
  reconciliations : outcome.trace.reconciliations = []
  session_eq : outcome.session = session

theorem Checked.leaves
    (hChecked : Checked c args session outcome) :
    Checked.Leaves session outcome := by
  cases hChecked with
  | overridden hOverridden hOutcome =>
      constructor <;> simp [hOutcome]
  | unanswered e hOverridden hAnswer hOutcome =>
      constructor <;> simp [hOutcome]
  | own hOverridden hAnswer hOutcome =>
      constructor <;> simp [hOutcome]
  | other hOverridden hAnswer hOutcome =>
      constructor <;> simp [hOutcome]

/- An error is the answer, or that of the own namespace. -/
theorem Checked.error_cases
    (hChecked : Checked c args session outcome)
    {e : PluginError}
    (hError : outcome.result = .error e) :
    outcome.trace.queries = [args.netns] ∧
      (c.namespaces args.netns = .error e ∨
        c.namespaces args.netns = .ok true ∧
          e = Netns.ownNamespace) := by
  cases hChecked with
  | overridden hOverridden hOutcome =>
      rw [hOutcome] at hError
      cases hError
  | unanswered failure hOverridden hAnswer hOutcome =>
      rw [hOutcome] at hError ⊢
      cases hError
      exact ⟨rfl, Or.inl hAnswer⟩
  | own hOverridden hAnswer hOutcome =>
      rw [hOutcome] at hError ⊢
      exact
        ⟨rfl,
          Or.inr ⟨hAnswer, (Except.error.inj hError).symm⟩⟩
  | other hOverridden hAnswer hOutcome =>
      rw [hOutcome] at hError
      cases hError

end Namespaces

------------------------------------------------------------
-- Commands
------------------------------------------------------------

section Commands

variable (c : Collaborators) (handlers : Handlers)
variable (plugin : Capabilities) (command : Command)
variable (args : Args) (session : Session)

/-
  A command ends with its negotiation, with its handler, or
  with the check of the namespace.
-/
inductive Performed (outcome : Outcome Unit) : Prop
  | refused
      (e : PluginError)
      (hNegotiation :
        Negotiation.Course c plugin command args.config
          session outcome)
      (hResult : outcome.result = .error e)
  | ended
      (negotiated handled : Outcome Unit)
      (hNegotiation :
        Negotiation.Course c plugin command args.config
          session negotiated)
      (hPassed : negotiated.result = .ok ())
      (hHandled :
        Handled handlers command args negotiated.session
          handled)
      (hLast :
        handled.result = .ok () →
          entersNamespace command = false)
      (hOutcome :
        outcome = handled.behind negotiated.trace)
  | checked
      (negotiated handled last : Outcome Unit)
      (hNegotiation :
        Negotiation.Course c plugin command args.config
          session negotiated)
      (hPassed : negotiated.result = .ok ())
      (hHandled :
        Handled handlers command args negotiated.session
          handled)
      (hFinished : handled.result = .ok ())
      (hEnters : entersNamespace command = true)
      (hChecked : Checked c args handled.session last)
      (hOutcome :
        outcome =
          (last.behind handled.trace).behind
            negotiated.trace)

theorem perform_performed :
    Performed c handlers plugin command args session
      (perform c handlers plugin command args session) := by
  unfold perform
  have hNegotiation :=
    Negotiation.negotiate_course c plugin command args.config
      session
  generalize hNegotiate :
    Negotiation.negotiate c plugin command args.config
      session = negotiated at hNegotiation
  rcases negotiated with ⟨result, trace, after⟩
  cases result with
  | error e =>
      rw [Step.bind_eq_error hNegotiate]
      exact .refused e hNegotiation rfl
  | ok passed =>
      rw [Step.bind_eq_behind hNegotiate]
      have hHandled :=
        callIfSet_handled handlers command args after
      generalize hCall :
        callIfSet handlers command args after = handled
          at hHandled
      rcases handled with ⟨called, calling, final⟩
      cases called with
      | error e =>
          rw [Step.bind_eq_error hCall]
          exact
            .ended _ _ hNegotiation rfl hHandled
              (by simp) rfl
      | ok finished =>
          rw [Step.bind_eq_behind hCall]
          cases hEnters : entersNamespace command with
          | true =>
              exact
                .checked _ _ _ hNegotiation rfl hHandled rfl
                  hEnters
                  (checkNamespace_checked c args final) rfl
          | false =>
              apply Performed.ended _ _ hNegotiation rfl
                hHandled (fun _ => hEnters)
              simp [Step.pure_apply, Outcome.behind]

end Commands

------------------------------------------------------------
-- Whole Invocations
------------------------------------------------------------

variable (c : Collaborators) (env : Environment)
variable (handlers : Handlers) (plugin : Capabilities)
variable (about : String) (session : Session)

/-
  An invocation introduces the plugin, fails without a
  request, reports the versions, or has a command that is
  unknown or performed.
-/
inductive Course (outcome : Outcome Unit) : Prop
  | introduced
      (e : PluginError)
      (trace : Trace)
      (after : Session)
      (hResolve :
        Request.resolve env session =
          ⟨.error e, trace, after⟩)
      (hWants : wantsIntroduction env about e = true)
      (hOutcome :
        outcome =
          ⟨.ok (), trace ++ [.logged .printingInformation],
            { after with
              stderr :=
                introduction about plugin after.stderr }⟩)
  | unresolved
      (e : PluginError)
      (trace : Trace)
      (after : Session)
      (hResolve :
        Request.resolve env session =
          ⟨.error e, trace, after⟩)
      (hWants : wantsIntroduction env about e = false)
      (hOutcome : outcome = ⟨.error e, trace, after⟩)
  | reported
      (hAccepted : env.IsAccepted)
      (hCommand : env .command = Command.version.name)
      (hOutcome :
        outcome =
          (Step.print plugin.printed session).behind
            [.logged
              (.dispatching .version (env .containerId)
                (env .ifName))])
  | unknown
      (config : Bytes)
      (hReads : Request.Reads env)
      (hRead : session.stdin.readToEnd.1 = .ok config)
      (hCheck : NetworkConfig.check config = .ok ())
      (hCommand : env.command? = none)
      (hOutcome :
        outcome =
          ⟨.error (Command.unknown (env .command)), [],
            session.afterReading⟩)
  | performed
      (config : Bytes)
      (command : Command)
      (inner : Outcome Unit)
      (hReads : Request.Reads env)
      (hRead : session.stdin.readToEnd.1 = .ok config)
      (hCheck : NetworkConfig.check config = .ok ())
      (hCommand : env.command? = some command)
      (hPerformed :
        Performed c handlers plugin command
          (.ofEnvironment env config) session.afterReading
          inner)
      (hOutcome :
        outcome =
          inner.behind
            [.logged
              (.dispatching command (env .containerId)
                (env .ifName))])

variable {c env handlers plugin about session}

/- Only a plugin that has a text is introduced. -/
theorem wantsIntroduction_iff (e : PluginError) :
    wantsIntroduction env about e = true ↔
      e.code = .invalidEnvironment ∧ env .command = "" ∧
        about ≠ "" := by
  simp [wantsIntroduction, PluginError.hasCode, and_assoc]

theorem command_of_wantsIntroduction
    {e : PluginError}
    (hWants : wantsIntroduction env about e = true) :
    env .command = "" :=
  ((wantsIntroduction_iff e).1 hWants).2.1

/- Behind a request that was resolved it is fulfilled. -/
theorem run_of_resolve
    {request : Request}
    {trace : Trace}
    {after : Session}
    (hResolve :
      Request.resolve env session =
        ⟨.ok request, trace, after⟩) :
    run c env handlers plugin about session =
      (fulfil c handlers plugin request after).behind
        trace := by
  have hAttempt :
      (Request.resolve env).attempt session =
        ⟨.ok (.ok request), trace, after⟩ := by
    unfold Step.attempt
    rw [hResolve]
  exact Step.bind_eq_behind hAttempt _

/- Behind a request that was not, a failure is answered. -/
theorem run_of_resolve_error
    {e : PluginError}
    {trace : Trace}
    {after : Session}
    (hResolve :
      Request.resolve env session =
        ⟨.error e, trace, after⟩) :
    run c env handlers plugin about session =
      ((if wantsIntroduction env about e then
          introduce about plugin
        else Step.fail e) after).behind trace := by
  have hAttempt :
      (Request.resolve env).attempt session =
        ⟨.ok (.error e), trace, after⟩ := by
    unfold Step.attempt
    rw [hResolve]
  exact Step.bind_eq_behind hAttempt _

/- A request that fails is all, unless it is introduced. -/
theorem run_eq_of_resolve_error
    {e : PluginError}
    {trace : Trace}
    {after : Session}
    (hResolve :
      Request.resolve env session =
        ⟨.error e, trace, after⟩)
    (hNot : ¬ (env .command = "" ∧ about ≠ "")) :
    run c env handlers plugin about session =
      ⟨.error e, trace, after⟩ := by
  have hWants : ¬ wantsIntroduction env about e = true := by
    rw [wantsIntroduction_iff]
    exact fun hAll => hNot hAll.2
  rw [run_of_resolve_error hResolve, if_neg hWants]
  simp [Step.fail, Outcome.behind]

/- A request for a report is answered by one. -/
theorem run_eq_of_report
    (hAccepted : env.IsAccepted)
    (hCommand : env .command = Command.version.name) :
    run c env handlers plugin about session =
      (Step.print plugin.printed session).behind
        [.logged
          (.dispatching .version (env .containerId)
            (env .ifName))] := by
  have hResolve :=
    Request.resolve_eq_of_report env session hAccepted
      hCommand
  have hParse :
      Command.parse (env .command) = .ok .version := by
    rw [hCommand]
    rfl
  rw [run_of_resolve hResolve, Outcome.behind_nil]
  unfold fulfil
  rw [Step.bind_ofResult_ok hParse, Step.bind_log]
  rfl

/- A request with a configuration is carried out. -/
theorem course_of_config
    {config : Bytes}
    (hReads : Request.Reads env)
    (hRead : session.stdin.readToEnd.1 = .ok config)
    (hCheck : NetworkConfig.check config = .ok ()) :
    Course c env handlers plugin about session
      (run c env handlers plugin about session) := by
  rw [run_of_resolve
      (Request.resolve_eq_ok env hReads hRead hCheck),
    Outcome.behind_nil]
  unfold fulfil
  cases hCommand : env.command? with
  | none =>
      have hParse :
          Command.parse (env .command) =
            .error (Command.unknown (env .command)) := by
        unfold Environment.command? at hCommand
        unfold Command.parse
        rw [hCommand]
      rw [Step.bind_ofResult_error hParse]
      exact
        .unknown config hReads hRead hCheck hCommand rfl
  | some command =>
      have hParse :
          Command.parse (env .command) = .ok command := by
        unfold Environment.command? at hCommand
        unfold Command.parse
        rw [hCommand]
      have hNotVersion : command ≠ .version := by
        rintro rfl
        exact
          hReads.2
            ((Command.ofName?_eq_some_iff _ _).1 hCommand)
      rw [Step.bind_ofResult_ok hParse, Step.bind_log]
      unfold serve
      rw [if_neg hNotVersion]
      exact
        .performed config command _ hReads hRead hCheck
          hCommand
          (perform_performed c handlers plugin command _ _)
          rfl

variable (c env handlers plugin about session)

/- Every invocation takes one of the courses. -/
theorem run_course :
    Course c env handlers plugin about session
      (run c env handlers plugin about session) := by
  have hRequest := Request.resolve_course env session
  generalize hResolve :
    Request.resolve env session = resolved at hRequest
  rcases resolved with ⟨result, trace, after⟩
  cases result with
  | error e =>
      rw [run_of_resolve_error hResolve]
      cases hWants : wantsIntroduction env about e with
      | true =>
          exact
            .introduced e trace after hResolve hWants rfl
      | false =>
          apply Course.unresolved e trace after hResolve
            hWants
          rw [if_neg (by simp)]
          simp [Step.fail, Outcome.behind]
  | ok request =>
      cases hRequest with
      | invalid v e hFault hOutcome => cases hOutcome
      | missing v more hAbsent hOutcome => cases hOutcome
      | unreadable e hReads hRead hOutcome => cases hOutcome
      | unusable config e hReads hRead hCheck hOutcome =>
          cases hOutcome
      | reportAsked hAccepted hCommand hOutcome =>
          exact
            .reported hAccepted hCommand
              (run_eq_of_report hAccepted hCommand)
      | resolved config hReads hRead hCheck hOutcome =>
          exact course_of_config hReads hRead hCheck

end Invocation

end NetPlugin
