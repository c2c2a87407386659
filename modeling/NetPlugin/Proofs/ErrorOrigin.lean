import NetPlugin.Execution
import NetPlugin.Proofs.EarlyExit
import NetPlugin.Proofs.HandlerErrors

/-
  Where the error of an invocation comes from.

  Before its handler an invocation fails by an early exit.
  Behind it the error is that of the handler or that of the
  check of the namespace, and the trace tells which.

  Main declarations:
    * `Invocation.Origin` and `Invocation.Explains`
    * `Invocation.Course.error_cases`
    * `Invocation.Course.origin_unique`
    * `Invocation.run_error_origin`
-/

------------------------------------------------------------
-- Origins
------------------------------------------------------------

namespace NetPlugin

namespace Invocation

/- The parts of an invocation that its error may be of. -/
inductive Origin where
  | handler
  | namespaceFailure
  | internal
  | ownNamespace
  | early
  deriving DecidableEq, Repr

section Origins

variable (c : Collaborators) (env : Environment)
variable (handlers : Handlers) (plugin : Capabilities)
variable (session : Session) (outcome : Outcome Unit)

/- A handler was called, and failed. -/
def HandlerFailed (failure : HandlerError) : Prop :=
  ∃ command args handler,
    (command, args) ∈ outcome.trace.calls ∧
      handlers.handler? command = some handler ∧
      (handler args session.stdout).result = .error failure

/-
  The command is ADD or DEL, its handler was called and
  succeeded, if there is one, and the namespace was asked
  for, with this answer.
-/
def NamespaceAnswered
    (answer : Except PluginError Bool) : Prop :=
  ∃ command,
    (command = .add ∨ command = .del) ∧
      env .command = command.name ∧
      (∀ handler,
        handlers.handler? command = some handler →
          ∃ args,
            (command, args) ∈ outcome.trace.calls ∧
              (handler args session.stdout).result =
                .ok ()) ∧
      outcome.trace.queries = [env .netns] ∧
      c.namespaces (env .netns) = answer

/- What an error is like that comes from an origin. -/
def Explains (e : PluginError) : Origin → Prop
  | .handler =>
      ∃ failure outer inner,
        HandlerFailed handlers session outcome failure ∧
          failure.layers = outer ++ .plugin e :: inner ∧
          ∀ other, HandlerError.Layer.plugin other ∉ outer
  | .namespaceFailure =>
      NamespaceAnswered c env handlers session outcome
        (.error e)
  | .internal =>
      e.code.number = 999 ∧ e.details = "" ∧
        ∃ failure,
          HandlerFailed handlers session outcome failure ∧
            e.message = failure.message ∧
            ∀ other,
              HandlerError.Layer.plugin other ∉
                failure.layers
  | .ownNamespace =>
      NamespaceAnswered c env handlers session outcome
          (.ok true) ∧
        e.code.number = 8 ∧
        e.message =
          "plugin's netns and netns from CNI_NETNS " ++
            "should not be the same" ∧
        e.details = ""
  | .early =>
      outcome.trace.calls = [] ∧
        outcome.trace.queries = [] ∧
        e.code.number ∈ [1, 4, 5, 6, 7]

end Origins

------------------------------------------------------------
-- Errors of Commands
------------------------------------------------------------

section Performed

variable {c : Collaborators} {handlers : Handlers}
variable {plugin : Capabilities} {command : Command}
variable {args : Args} {session : Session}
variable {outcome : Outcome Unit} {e : PluginError}

/- Only ADD and DEL have their namespace checked. -/
theorem entersNamespace_iff :
    entersNamespace command = true ↔
      command = .add ∨ command = .del := by
  cases command <;> simp [entersNamespace]

/-
  The error of a command is that of its handler, of the
  check of the namespace, or of the negotiation.
-/
theorem Performed.error_cases
    (hPerformed :
      Performed c handlers plugin command args session
        outcome)
    (hError : outcome.result = .error e) :
    (∃ handler failure,
      handlers.handler? command = some handler ∧
        (handler args session.stdout).result =
          .error failure ∧
        e = failure.classify ∧
        (command, args) ∈ outcome.trace.calls) ∨
    (entersNamespace command = true ∧
      (∀ handler,
        handlers.handler? command = some handler →
          (command, args) ∈ outcome.trace.calls ∧
            (handler args session.stdout).result = .ok ()) ∧
      outcome.trace.queries = [args.netns] ∧
      (c.namespaces args.netns = .error e ∨
        c.namespaces args.netns = .ok true ∧
          e = Netns.ownNamespace)) ∨
    (outcome.IsQuiet session ∧
      (Negotiation.Incompatible c plugin command
          args.config session.decodings e ∨
        Negotiation.Undecodable c plugin command
          args.config session.decodings e)) := by
  cases hPerformed with
  | refused other hNegotiation hResult =>
      exact
        Or.inr
          (Or.inr
            ⟨hNegotiation.isQuiet,
              hNegotiation.error_cases hError⟩)
  | ended negotiated handled hNegotiation hPassed hHandled
      hLast hOutcome =>
      rw [hOutcome, Outcome.behind_result] at hError
      rcases hHandled.error_cases hError with
        ⟨handler, failure, hHandler, hResult, hClassify⟩
      rw [hNegotiation.isQuiet.stdout] at hResult
      refine
        Or.inl
          ⟨handler, failure, hHandler, hResult, hClassify,
            ?_⟩
      rw [hOutcome, Outcome.behind_trace,
        Trace.calls_append]
      exact
        List.mem_append_right _
          (hHandled.mem_calls hHandler)
  | checked negotiated handled last hNegotiation hPassed
      hHandled hFinished hEnters hChecked hOutcome =>
      rw [hOutcome, Outcome.behind_result,
        Outcome.behind_result] at hError
      rcases hChecked.error_cases hError with
        ⟨hQueries, hAnswer⟩
      refine Or.inr (Or.inl ⟨hEnters, ?_, ?_, hAnswer⟩)
      · intro handler hHandler
        have hResult := hHandled.succeeded hFinished hHandler
        rw [hNegotiation.isQuiet.stdout] at hResult
        refine ⟨?_, hResult⟩
        simp [hOutcome, hHandled.leaves.calls, hHandler]
      · simp [hOutcome, hNegotiation.isQuiet.queries,
          hHandled.leaves.queries, hQueries]

/- A failure of the handler ends before any question. -/
theorem Performed.queries_of_failure
    (hPerformed :
      Performed c handlers plugin command args session
        outcome)
    {handler : Handler}
    {failure : HandlerError}
    (hHandler : handlers.handler? command = some handler)
    (hResult :
      (handler args session.stdout).result =
        .error failure) :
    outcome.trace.queries = [] := by
  cases hPerformed with
  | refused other hNegotiation hRefused =>
      exact hNegotiation.isQuiet.queries
  | ended negotiated handled hNegotiation hPassed hHandled
      hLast hOutcome =>
      simp [hOutcome, hNegotiation.isQuiet.queries,
        hHandled.leaves.queries]
  | checked negotiated handled last hNegotiation hPassed
      hHandled hFinished hEnters hChecked hOutcome =>
      have hSucceeded := hHandled.succeeded hFinished hHandler
      rw [hNegotiation.isQuiet.stdout, hResult]
        at hSucceeded
      cases hSucceeded

end Performed

------------------------------------------------------------
-- Errors of Invocations
------------------------------------------------------------

section Run

variable {c : Collaborators} {env : Environment}
variable {handlers : Handlers} {plugin : Capabilities}
variable {about : String} {session : Session}
variable {outcome : Outcome Unit} {e : PluginError}

/-
  The error of an invocation is that of its handler, of the
  check of the namespace, or of an early exit.
-/
theorem Course.error_cases
    (hCourse :
      Course c env handlers plugin about session outcome)
    (hError : outcome.result = .error e) :
    (∃ failure,
      HandlerFailed handlers session outcome failure ∧
        e = failure.classify) ∨
    (∃ answer,
      NamespaceAnswered c env handlers session outcome
          answer ∧
        (answer = .error e ∨
          answer = .ok true ∧ e = Netns.ownNamespace)) ∨
    (outcome.trace.calls = [] ∧
      outcome.trace.queries = [] ∧
      EarlyExit c env plugin session e) := by
  cases hCourse with
  | introduced failure trace after hResolve hWants hOutcome =>
      rw [hOutcome] at hError
      cases hError
  | unresolved failure trace after hResolve hWants hOutcome =>
      have hSilent := Request.isSilent_of_resolve hResolve
      rw [hOutcome] at hError ⊢
      cases hError
      exact
        Or.inr
          (Or.inr
            ⟨hSilent.calls, hSilent.queries,
              earlyExit_of_resolve hResolve⟩)
  | reported hAccepted hCommand hOutcome =>
      rw [hOutcome, Outcome.behind_result] at hError
      rcases print_result_eq_error hError with
        ⟨failure, hFailure⟩
      rw [hOutcome]
      exact
        Or.inr
          (Or.inr
            ⟨rfl, rfl,
              .unwritable failure hCommand hFailure⟩)
  | unknown config hReads hRead hCheck hCommand hOutcome =>
      rw [hOutcome] at hError ⊢
      cases hError
      exact
        Or.inr
          (Or.inr ⟨rfl, rfl, .unknown hCommand rfl⟩)
  | performed config command inner hReads hRead hCheck
      hCommand hPerformed hOutcome =>
      have hName : env .command = command.name :=
        (Command.ofName?_eq_some_iff _ _).1 hCommand
      have hCalls :
          outcome.trace.calls = inner.trace.calls := by
        simp [hOutcome]
      have hQueries :
          outcome.trace.queries = inner.trace.queries := by
        simp [hOutcome]
      rw [hOutcome, Outcome.behind_result] at hError
      rcases hPerformed.error_cases hError with
        ⟨handler, failure, hHandler, hResult, hClassify,
          hCalled⟩ |
        ⟨hEnters, hSucceeded, hAsked, hAnswer⟩ |
        ⟨hQuiet, hNegotiation⟩
      · rw [← hCalls] at hCalled
        exact
          Or.inl
            ⟨failure,
              ⟨command, _, handler, hCalled, hHandler,
                hResult⟩,
              hClassify⟩
      · refine
          Or.inr
            (Or.inl
              ⟨c.namespaces (env .netns),
                ⟨command, entersNamespace_iff.1 hEnters,
                  hName, ?_, hQueries.trans hAsked, rfl⟩,
                hAnswer⟩)
        intro handler hHandler
        rw [hCalls]
        exact ⟨_, hSucceeded handler hHandler⟩
      · refine
          Or.inr
            (Or.inr
              ⟨hCalls.trans hQuiet.calls,
                hQueries.trans hQuiet.queries, ?_⟩)
        rcases hNegotiation with hIncompatible | hUndecodable
        · exact
            .incompatible config command hRead hName
              hIncompatible
        · exact
            .undecodable config command hRead hName
              hUndecodable

/- A failed handler is the only one, and ends the run. -/
theorem Course.queries_of_failure
    (hCourse :
      Course c env handlers plugin about session outcome)
    {failure : HandlerError}
    (hFailed :
      HandlerFailed handlers session outcome failure) :
    outcome.trace.queries = [] := by
  rcases hFailed with
    ⟨command, args, handler, hCalled, hHandler, hResult⟩
  rcases hCourse.called_of_mem_calls hCalled with
    ⟨inner, hCall⟩
  have hQueries :=
    hCall.performed.queries_of_failure hHandler hResult
  simp [hCall.behind, hQueries]

/- No two failures are that of the one call. -/
theorem Course.failure_unique
    (hCourse :
      Course c env handlers plugin about session outcome)
    {one two : HandlerError}
    (hOne : HandlerFailed handlers session outcome one)
    (hTwo : HandlerFailed handlers session outcome two) :
    one = two := by
  rcases hOne with
    ⟨command, args, handler, hCalled, hHandler, hResult⟩
  rcases hTwo with
    ⟨command', args', handler', hCalled', hHandler',
      hResult'⟩
  cases
    ((hCourse.mem_calls_iff _ _).1 hCalled).unique
      ((hCourse.mem_calls_iff _ _).1 hCalled')
  rw [hHandler] at hHandler'
  cases hHandler'
  rw [hResult] at hResult'
  exact Except.error.inj hResult'

/- Every error has an origin. -/
theorem Course.exists_origin
    (hCourse :
      Course c env handlers plugin about session outcome)
    (hError : outcome.result = .error e) :
    ∃ origin,
      Explains c env handlers session outcome e origin := by
  rcases hCourse.error_cases hError with
    ⟨failure, hFailed, hClassify⟩ |
    ⟨answer, hAnswered, hAnswer⟩ |
    ⟨hCalls, hQueries, hExit⟩
  · rcases (failure.classify_eq_iff e).1 hClassify.symm with
      hOutermost | ⟨hNone, hInternal⟩
    · rw [HandlerError.outermost?_eq_some_iff] at hOutermost
      rcases hOutermost with
        ⟨outer, inner, hLayers, hOuter⟩
      exact
        ⟨.handler, failure, outer, inner, hFailed, hLayers,
          hOuter⟩
    · rw [HandlerError.outermost?_eq_none_iff] at hNone
      subst hInternal
      exact
        ⟨.internal, rfl, rfl, failure, hFailed, rfl, hNone⟩
  · rcases hAnswer with rfl | ⟨rfl, rfl⟩
    · exact ⟨.namespaceFailure, hAnswered⟩
    · exact ⟨.ownNamespace, hAnswered, rfl, rfl, rfl⟩
  · exact ⟨.early, hCalls, hQueries, hExit.number_mem⟩

------------------------------------------------------------
-- No Two Origins
------------------------------------------------------------

/- A failed handler was called. -/
theorem HandlerFailed.calls_ne_nil
    {failure : HandlerError}
    (hFailed :
      HandlerFailed handlers session outcome failure) :
    outcome.trace.calls ≠ [] := by
  rcases hFailed with ⟨command, args, _, hCalled, _⟩
  exact List.ne_nil_of_mem hCalled

/- Where there was an answer, there was a question. -/
theorem NamespaceAnswered.queries_ne_nil
    {answer : Except PluginError Bool}
    (hAnswered :
      NamespaceAnswered c env handlers session outcome
        answer) :
    outcome.trace.queries ≠ [] := by
  rcases hAnswered with ⟨_, _, _, _, hQueries, _⟩
  rw [hQueries]
  simp

theorem NamespaceAnswered.answer_unique
    {one two : Except PluginError Bool}
    (hOne :
      NamespaceAnswered c env handlers session outcome one)
    (hTwo :
      NamespaceAnswered c env handlers session outcome
        two) :
    one = two := by
  rcases hOne with ⟨_, _, _, _, _, hAnswer⟩
  rcases hTwo with ⟨_, _, _, _, _, hOther⟩
  exact hAnswer.symm.trans hOther

/- The part of an invocation that an origin belongs to. -/
inductive Stage where
  | handler
  | namespaces
  | early
  deriving DecidableEq, Repr

def Origin.stage : Origin → Stage
  | .handler => .handler
  | .internal => .handler
  | .namespaceFailure => .namespaces
  | .ownNamespace => .namespaces
  | .early => .early

/- A stage with two origins has just these. -/
theorem Origin.eq_or_of_stage_eq
    {one two : Origin}
    (hStage : one.stage = two.stage) :
    one = two ∨
      one = .handler ∧ two = .internal ∨
      one = .internal ∧ two = .handler ∨
      one = .namespaceFailure ∧ two = .ownNamespace ∨
      one = .ownNamespace ∧ two = .namespaceFailure := by
  cases one <;> cases two <;> simp_all [stage]

/- What the trace is like behind each of the stages. -/
def Stage.Shows
    (stage : Stage)
    (outcome : Outcome Unit) : Prop :=
  match stage with
  | .handler =>
      outcome.trace.calls ≠ [] ∧ outcome.trace.queries = []
  | .namespaces => outcome.trace.queries ≠ []
  | .early =>
      outcome.trace.calls = [] ∧ outcome.trace.queries = []

/- A trace shows a single stage. -/
theorem Stage.Shows.unique
    {one two : Stage}
    (hOne : one.Shows outcome)
    (hTwo : two.Shows outcome) :
    one = two := by
  cases one <;> cases two <;> simp_all [Stage.Shows]

theorem Course.shows_stage
    (hCourse :
      Course c env handlers plugin about session outcome)
    {origin : Origin}
    (hOrigin :
      Explains c env handlers session outcome e origin) :
    origin.stage.Shows outcome := by
  cases origin with
  | handler =>
      rcases hOrigin with ⟨failure, _, _, hFailed, _⟩
      exact
        ⟨hFailed.calls_ne_nil,
          hCourse.queries_of_failure hFailed⟩
  | internal =>
      rcases hOrigin with ⟨_, _, failure, hFailed, _⟩
      exact
        ⟨hFailed.calls_ne_nil,
          hCourse.queries_of_failure hFailed⟩
  | namespaceFailure => exact hOrigin.queries_ne_nil
  | ownNamespace => exact hOrigin.1.queries_ne_nil
  | early => exact ⟨hOrigin.1, hOrigin.2.1⟩

/- The layers of the one failure tell two origins apart. -/
theorem Course.not_handler_and_internal
    (hCourse :
      Course c env handlers plugin about session outcome)
    (hHandler :
      Explains c env handlers session outcome e .handler) :
    ¬ Explains c env handlers session outcome e
        .internal := by
  rcases hHandler with
    ⟨failure, outer, inner, hFailed, hLayers, _⟩
  rintro ⟨_, _, other, hOther, _, hNone⟩
  cases hCourse.failure_unique hFailed hOther
  apply hNone e
  rw [hLayers]
  simp

/- The one answer tells the two others apart. -/
theorem not_namespaceFailure_and_ownNamespace
    (hFailure :
      Explains c env handlers session outcome e
        .namespaceFailure) :
    ¬ Explains c env handlers session outcome e
        .ownNamespace := by
  intro hOwn
  cases NamespaceAnswered.answer_unique hFailure hOwn.1

/- No error has two origins. -/
theorem Course.origin_unique
    (hCourse :
      Course c env handlers plugin about session outcome)
    {one two : Origin}
    (hOne :
      Explains c env handlers session outcome e one)
    (hTwo :
      Explains c env handlers session outcome e two) :
    one = two := by
  have hStage : one.stage = two.stage :=
    (hCourse.shows_stage hOne).unique
      (hCourse.shows_stage hTwo)
  rcases Origin.eq_or_of_stage_eq hStage with
    hSame | ⟨rfl, rfl⟩ | ⟨rfl, rfl⟩ | ⟨rfl, rfl⟩ |
    ⟨rfl, rfl⟩
  · exact hSame
  · exact
      absurd hTwo (hCourse.not_handler_and_internal hOne)
  · exact
      absurd hOne (hCourse.not_handler_and_internal hTwo)
  · exact
      absurd hTwo
        (not_namespaceFailure_and_ownNamespace hOne)
  · exact
      absurd hOne
        (not_namespaceFailure_and_ownNamespace hTwo)

/- Nothing but an early exit leaves such a trace. -/
theorem Course.earlyExit_of_explains
    (hCourse :
      Course c env handlers plugin about session outcome)
    (hError : outcome.result = .error e)
    (hEarly :
      Explains c env handlers session outcome e .early) :
    EarlyExit c env plugin session e := by
  rcases hEarly with ⟨hCalls, hQueries, _⟩
  rcases hCourse.error_cases hError with
    ⟨failure, hFailed, _⟩ | ⟨answer, hAnswered, _⟩ |
    ⟨_, _, hExit⟩
  · exact absurd hCalls hFailed.calls_ne_nil
  · exact absurd hQueries hAnswered.queries_ne_nil
  · exact hExit

end Run

------------------------------------------------------------
-- The Origin of an Error
------------------------------------------------------------

/-
  Every error of an invocation has exactly one origin.  An
  error from before the handler has its code for a reason,
  and is none of the faults of empty identifiers.
-/
theorem run_error_origin
    (c : Collaborators)
    (env : Environment)
    (handlers : Handlers)
    (plugin : Capabilities)
    (about : String)
    (session : Session)
    {e : PluginError}
    (hError :
      (run c env handlers plugin about session).result =
        .error e) :
    let explains :=
      Explains c env handlers session
        (run c env handlers plugin about session) e
    (∃! origin, explains origin) ∧
      (explains .early →
        (e.code.number = 1 →
          IsIncompatible c env plugin session e) ∧
        (e.code.number = 6 →
          IsUndecodable c env plugin session e) ∧
        ∀ empty : Identifier.Fault,
          empty.IsEmptiness → e ≠ empty.toError) := by
  intro explains
  have hCourse :=
    run_course c env handlers plugin about session
  constructor
  · rcases hCourse.exists_origin hError with
      ⟨origin, hOrigin⟩
    exact
      ⟨origin, hOrigin, fun other hOther =>
        hCourse.origin_unique hOther hOrigin⟩
  · intro hEarly
    have hExit := hCourse.earlyExit_of_explains hError hEarly
    refine ⟨hExit.isIncompatible, hExit.isUndecodable, ?_⟩
    intro empty hEmpty
    exact hExit.ne_of_isEmptiness hEmpty

/- A request of ADD for a namespace. -/
def ownEnvironment : Environment :=
  .ofPairs
    [("CNI_COMMAND", "ADD"), ("CNI_CONTAINERID", "one"),
      ("CNI_NETNS", "/run/netns/own"), ("CNI_IFNAME", "eth0"),
      ("CNI_PATH", "/bin")]

/- Those who say that this is the own namespace. -/
def ownCollaborators : Collaborators :=
  Execution.collaborators (.fixed (some "/run/netns/own") none)

/- Handlers that do nothing, and succeed. -/
def idleHandlers : Handlers :=
  .three (.silent fun _ => .ok ()) (.silent fun _ => .ok ())
    (.silent fun _ => .ok ())

/- A session with a configuration. -/
def configuredSession : Session :=
  { stdin :=
      [.chunk
        (Utf8.encode
          "\x7b\"cniVersion\":\"0.4.0\",\"name\":\"net\"\x7d")]
  }

/- The handler succeeds, and then the namespace is wrong. -/
theorem error_origin_of_own_namespace :
    let outcome :=
      run ownCollaborators ownEnvironment idleHandlers .all ""
        configuredSession
    outcome.result = .error Netns.ownNamespace ∧
      outcome.trace.calls.length = 1 ∧
      ∃! origin,
        Explains ownCollaborators ownEnvironment idleHandlers
          configuredSession outcome Netns.ownNamespace
          origin := by
  have hError :
      (run ownCollaborators ownEnvironment idleHandlers .all
          "" configuredSession).result =
        .error Netns.ownNamespace := by
    decide +kernel
  exact
    ⟨hError, by decide +kernel,
      (run_error_origin ownCollaborators ownEnvironment
        idleHandlers .all "" configuredSession hError).1⟩

end Invocation

end NetPlugin
