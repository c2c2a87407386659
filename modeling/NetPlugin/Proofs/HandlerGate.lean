import NetPlugin.Proofs.Invocation

/-
  When an invocation calls a handler, and with what.

  A handler is called exactly when it is the one of the
  command that the environment names, the request is
  resolved, and the negotiation passes.

  Main declarations:
    * `Invocation.Admits` and `Course.mem_calls_iff`
    * `Invocation.Called` and `Course.called_of_mem_calls`
    * `Invocation.Course.consults_once`
    * `Invocation.run_calls_as_gated`
-/

------------------------------------------------------------
-- Commands That Are Performed
------------------------------------------------------------

namespace NetPlugin

namespace Invocation

section Performed

variable {c : Collaborators} {handlers : Handlers}
variable {plugin : Capabilities} {command : Command}
variable {args : Args} {session : Session}
variable {outcome : Outcome Unit}

/-
  Behind a negotiation that passes, the handler has its
  turn; what follows it neither calls anything nor changes
  the session.
-/
theorem Performed.handled_of_passes
    (hPerformed :
      Performed c handlers plugin command args session
        outcome)
    (hPasses :
      Negotiation.Passes c plugin session.decodings
        args.config command) :
    ∃ negotiated handled rest,
      Negotiation.Course c plugin command args.config
          session negotiated ∧
        negotiated.result = .ok () ∧
        Handled handlers command args negotiated.session
          handled ∧
        Trace.calls rest = [] ∧
        outcome.trace =
          negotiated.trace ++ (handled.trace ++ rest) ∧
        outcome.session = handled.session := by
  cases hPerformed with
  | refused e hNegotiation hResult =>
      have hPassed := hNegotiation.result_eq_ok_iff.2 hPasses
      rw [hResult] at hPassed
      cases hPassed
  | ended negotiated handled hNegotiation hPassed hHandled
      hLast hOutcome =>
      refine
        ⟨negotiated, handled, [], hNegotiation, hPassed,
          hHandled, rfl, ?_, ?_⟩
      · simp [hOutcome]
      · simp [hOutcome]
  | checked negotiated handled last hNegotiation hPassed
      hHandled hFinished hEnters hChecked hOutcome =>
      refine
        ⟨negotiated, handled, last.trace, hNegotiation,
          hPassed, hHandled, hChecked.leaves.calls, ?_, ?_⟩
      · simp [hOutcome]
      · simp [hOutcome, hChecked.leaves.session_eq]

/- So the handler is called, if there is one. -/
theorem Performed.calls_of_passes
    (hPerformed :
      Performed c handlers plugin command args session
        outcome)
    (hPasses :
      Negotiation.Passes c plugin session.decodings
        args.config command) :
    outcome.trace.calls =
      if (handlers.handler? command).isSome then
        [(command, args)]
      else [] := by
  rcases hPerformed.handled_of_passes hPasses with
    ⟨negotiated, handled, rest, hNegotiation, _, hHandled,
      hRest, hTrace, _⟩
  rw [hTrace, Trace.calls_append, Trace.calls_append,
    hNegotiation.isQuiet.calls, hHandled.leaves.calls,
    hRest, List.nil_append, List.append_nil]

/- Behind one that does not, nothing is called. -/
theorem Performed.calls_of_not_passes
    (hPerformed :
      Performed c handlers plugin command args session
        outcome)
    (hNot :
      ¬ Negotiation.Passes c plugin session.decodings
        args.config command) :
    outcome.trace.calls = [] := by
  cases hPerformed with
  | refused e hNegotiation hResult =>
      exact hNegotiation.isQuiet.calls
  | ended negotiated handled hNegotiation hPassed hHandled
      hLast hOutcome =>
      exact
        absurd (hNegotiation.result_eq_ok_iff.1 hPassed) hNot
  | checked negotiated handled last hNegotiation hPassed
      hHandled hFinished hEnters hChecked hOutcome =>
      exact
        absurd (hNegotiation.result_eq_ok_iff.1 hPassed) hNot

/- A call is the one of the handler, behind a negotiation. -/
theorem Performed.mem_calls_iff
    (hPerformed :
      Performed c handlers plugin command args session
        outcome)
    (called : Command × Args) :
    called ∈ outcome.trace.calls ↔
      called = (command, args) ∧
        (handlers.handler? command).isSome ∧
        Negotiation.Passes c plugin session.decodings
          args.config command := by
  by_cases hPasses :
      Negotiation.Passes c plugin session.decodings
        args.config command
  · rw [hPerformed.calls_of_passes hPasses]
    cases hHandler : (handlers.handler? command).isSome <;>
      simp [hPasses]
  · rw [hPerformed.calls_of_not_passes hPasses]
    simp [hPasses]

theorem Performed.length_calls_le
    (hPerformed :
      Performed c handlers plugin command args session
        outcome) :
    outcome.trace.calls.length ≤ 1 := by
  by_cases hPasses :
      Negotiation.Passes c plugin session.decodings
        args.config command
  · rw [hPerformed.calls_of_passes hPasses]
    split <;> simp
  · rw [hPerformed.calls_of_not_passes hPasses]
    simp

/- A call leaves the output of the handler that is set. -/
theorem Performed.stdout_of_mem_calls
    (hPerformed :
      Performed c handlers plugin command args session
        outcome)
    (hCalled : (command, args) ∈ outcome.trace.calls) :
    ∃ handler,
      handlers.handler? command = some handler ∧
        outcome.session.stdout =
          (handler args session.stdout).stdout := by
  rcases (hPerformed.mem_calls_iff _).1 hCalled with
    ⟨_, hSet, hPasses⟩
  rcases Option.isSome_iff_exists.1 hSet with
    ⟨handler, hHandler⟩
  rcases hPerformed.handled_of_passes hPasses with
    ⟨negotiated, handled, rest, hNegotiation, _, hHandled,
      _, _, hSession⟩
  refine ⟨handler, hHandler, ?_⟩
  rw [hSession, hHandled.leaves.stdout handler hHandler,
    hNegotiation.isQuiet.stdout]

/- A call comes behind all decodings of its command. -/
theorem Performed.decodings_of_mem_calls
    (hPerformed :
      Performed c handlers plugin command args session
        outcome)
    (hCalled : (command, args) ∈ outcome.trace.calls) :
    outcome.session.decodings =
      session.decodings +
        Negotiation.decodingsOf command := by
  rcases (hPerformed.mem_calls_iff _).1 hCalled with
    ⟨_, _, hPasses⟩
  rcases hPerformed.handled_of_passes hPasses with
    ⟨negotiated, handled, rest, hNegotiation, hPassed,
      hHandled, _, _, hSession⟩
  rw [hSession, hHandled.leaves.decodings,
    hNegotiation.decodings_of_ok hPassed]

/- The reconciler is asked in the negotiation alone. -/
theorem Performed.length_reconciliations_le
    (hPerformed :
      Performed c handlers plugin command args session
        outcome) :
    outcome.trace.reconciliations.length ≤ 1 := by
  cases hPerformed with
  | refused e hNegotiation hResult =>
      exact hNegotiation.isQuiet.reconciliations
  | ended negotiated handled hNegotiation hPassed hHandled
      hLast hOutcome =>
      simpa [hOutcome, hHandled.leaves.reconciliations] using
        hNegotiation.isQuiet.reconciliations
  | checked negotiated handled last hNegotiation hPassed
      hHandled hFinished hEnters hChecked hOutcome =>
      simpa [hOutcome, hHandled.leaves.reconciliations,
        hChecked.leaves.reconciliations] using
        hNegotiation.isQuiet.reconciliations

theorem Performed.length_queries_le
    (hPerformed :
      Performed c handlers plugin command args session
        outcome) :
    outcome.trace.queries.length ≤ 1 := by
  cases hPerformed with
  | refused e hNegotiation hResult =>
      simp [hNegotiation.isQuiet.queries]
  | ended negotiated handled hNegotiation hPassed hHandled
      hLast hOutcome =>
      simp [hOutcome, hNegotiation.isQuiet.queries,
        hHandled.leaves.queries]
  | checked negotiated handled last hNegotiation hPassed
      hHandled hFinished hEnters hChecked hOutcome =>
      simpa [hOutcome, hNegotiation.isQuiet.queries,
        hHandled.leaves.queries] using hChecked.leaves.queries

end Performed

------------------------------------------------------------
-- Whole Invocations
------------------------------------------------------------

section Run

variable (c : Collaborators) (env : Environment)
variable (handlers : Handlers) (plugin : Capabilities)
variable (about : String) (session : Session)

/-
  What has to hold for the handler of a command to be
  called with some arguments.
-/
structure Admits
    (command : Command)
    (args : Args) : Prop where
  named : env .command = command.name
  isSet : (handlers.handler? command).isSome
  resolved :
    (Request.resolve env session).result =
      .ok ⟨command.name, args⟩
  passes :
    Negotiation.Passes c plugin session.decodings args.config
      command

variable {c env handlers plugin about session}
variable {outcome : Outcome Unit}

/- At most one command is admitted, and in one way. -/
theorem Admits.unique
    {command other : Command}
    {args others : Args}
    (hOne :
      Admits c env handlers plugin session command args)
    (hTwo :
      Admits c env handlers plugin session other others) :
    (command, args) = (other, others) := by
  rcases Request.resolved_unique hOne.resolved hTwo.resolved
    with ⟨rfl, rfl⟩
  rfl

/- Nothing is admitted without a request. -/
theorem not_admits_of_resolve_error
    {e : PluginError}
    {trace : Trace}
    {after : Session}
    (hResolve :
      Request.resolve env session =
        ⟨.error e, trace, after⟩)
    (command : Command)
    (args : Args) :
    ¬ Admits c env handlers plugin session command args := by
  intro hAdmits
  have hResolved := hAdmits.resolved
  rw [hResolve] at hResolved
  cases hResolved

/- Nothing is admitted for a report. -/
theorem not_admits_of_report
    (hCommand : env .command = Command.version.name)
    (command : Command)
    (args : Args) :
    ¬ Admits c env handlers plugin session command args := by
  intro hAdmits
  have hName := hAdmits.named
  rw [hCommand] at hName
  have hVersion : command = .version := by
    cases command <;> simp_all [Command.name]
  have hSet := hAdmits.isSet
  rw [hVersion] at hSet
  cases hSet

/- Behind a configuration that was read it is negotiated. -/
theorem admits_iff
    {config : Bytes}
    {named : Command}
    (hReads : Request.Reads env)
    (hRead : session.stdin.readToEnd.1 = .ok config)
    (hCheck : NetworkConfig.check config = .ok ())
    (hCommand : env.command? = some named)
    (command : Command)
    (args : Args) :
    Admits c env handlers plugin session command args ↔
      (command, args) = (named, .ofEnvironment env config) ∧
        (handlers.handler? named).isSome ∧
        Negotiation.Passes c plugin session.decodings config
          named := by
  have hResolved :=
    Request.resolved_iff hReads hRead hCheck hCommand
      command args
  constructor
  · rintro ⟨hNamed, hSet, hResult, hPasses⟩
    rcases hResolved.1 ⟨hNamed, hResult⟩ with ⟨rfl, rfl⟩
    exact ⟨rfl, hSet, hPasses⟩
  · rintro ⟨hCalled, hSet, hPasses⟩
    rcases Prod.mk.inj hCalled with ⟨rfl, rfl⟩
    have hNamed := hResolved.2 ⟨rfl, rfl⟩
    exact ⟨hNamed.1, hSet, hNamed.2, hPasses⟩

/- The calls of an invocation are those that are admitted. -/
theorem Course.mem_calls_iff
    (hCourse :
      Course c env handlers plugin about session outcome)
    (command : Command)
    (args : Args) :
    (command, args) ∈ outcome.trace.calls ↔
      Admits c env handlers plugin session command args := by
  cases hCourse with
  | introduced e trace after hResolve hWants hOutcome =>
      have hSilent := Request.isSilent_of_resolve hResolve
      simp [hOutcome, hSilent.calls,
        not_admits_of_resolve_error hResolve]
  | unresolved e trace after hResolve hWants hOutcome =>
      have hSilent := Request.isSilent_of_resolve hResolve
      simp [hOutcome, hSilent.calls,
        not_admits_of_resolve_error hResolve]
  | reported hAccepted hCommand hOutcome =>
      have hCalls :
          (Step.print plugin.printed session).trace = [] :=
        rfl
      simp [hOutcome, hCalls, not_admits_of_report hCommand]
  | unknown config hReads hRead hCheck hCommand hOutcome =>
      have hNot :
          ¬ Admits c env handlers plugin session command
            args := by
        intro hAdmits
        have hName := hAdmits.named
        rw [← Command.ofName?_eq_some_iff] at hName
        unfold Environment.command? at hCommand
        rw [hCommand] at hName
        cases hName
      simp [hOutcome, hNot]
  | performed config named inner hReads hRead hCheck
      hCommand hPerformed hOutcome =>
      have hCalls :
          outcome.trace.calls = inner.trace.calls := by
        simp [hOutcome]
      rw [hCalls, hPerformed.mem_calls_iff,
        admits_iff hReads hRead hCheck hCommand]
      rfl

/- An invocation is silent, or performs a command. -/
theorem Course.silent_or_performed
    (hCourse :
      Course c env handlers plugin about session outcome) :
    outcome.trace.IsSilent ∨
      ∃ config command inner,
        Request.Reads env ∧
          session.stdin.readToEnd.1 = .ok config ∧
          NetworkConfig.check config = .ok () ∧
          Performed c handlers plugin command
            (.ofEnvironment env config) session.afterReading
            inner ∧
          outcome =
            inner.behind
              [.logged
                (.dispatching command (env .containerId)
                  (env .ifName))] := by
  cases hCourse with
  | introduced e trace after hResolve hWants hOutcome =>
      have hSilent := Request.isSilent_of_resolve hResolve
      left
      constructor
      · simp [hOutcome, hSilent.calls]
      · simp [hOutcome, hSilent.queries]
      · simp [hOutcome, hSilent.reconciliations]
  | unresolved e trace after hResolve hWants hOutcome =>
      rw [hOutcome]
      exact Or.inl (Request.isSilent_of_resolve hResolve)
  | reported hAccepted hCommand hOutcome =>
      rw [hOutcome]
      exact Or.inl ⟨rfl, rfl, rfl⟩
  | unknown config hReads hRead hCheck hCommand hOutcome =>
      rw [hOutcome]
      exact Or.inl ⟨rfl, rfl, rfl⟩
  | performed config command inner hReads hRead hCheck
      hCommand hPerformed hOutcome =>
      exact
        Or.inr
          ⟨config, command, inner, hReads, hRead, hCheck,
            hPerformed, hOutcome⟩

theorem Course.length_calls_le
    (hCourse :
      Course c env handlers plugin about session outcome) :
    outcome.trace.calls.length ≤ 1 := by
  rcases hCourse.silent_or_performed with
    hSilent | ⟨_, _, _, _, _, _, hPerformed, hOutcome⟩
  · rw [hSilent.calls]
    exact Nat.zero_le 1
  · simpa [hOutcome] using hPerformed.length_calls_le

/-
  The reconciler and the namespaces are asked at most once,
  so that it does not matter whether their answers change.
-/
theorem Course.consults_once
    (hCourse :
      Course c env handlers plugin about session outcome) :
    outcome.trace.reconciliations.length ≤ 1 ∧
      outcome.trace.queries.length ≤ 1 := by
  rcases hCourse.silent_or_performed with
    hSilent | ⟨_, _, _, _, _, _, hPerformed, hOutcome⟩
  · rw [hSilent.reconciliations, hSilent.queries]
    exact ⟨Nat.zero_le 1, Nat.zero_le 1⟩
  · have hReconciler := hPerformed.length_reconciliations_le
    have hNamespaces := hPerformed.length_queries_le
    simpa [hOutcome] using ⟨hReconciler, hNamespaces⟩

/-
  What has happened where a handler was called: a command
  was performed on a configuration that was read.
-/
structure Called
    (c : Collaborators)
    (env : Environment)
    (handlers : Handlers)
    (plugin : Capabilities)
    (session : Session)
    (outcome : Outcome Unit)
    (command : Command)
    (args : Args)
    (inner : Outcome Unit) : Prop where
  reads : Request.Reads env
  read : session.stdin.readToEnd.1 = .ok args.config
  check : NetworkConfig.check args.config = .ok ()
  copied : args = .ofEnvironment env args.config
  performed :
    Performed c handlers plugin command args
      session.afterReading inner
  mem : (command, args) ∈ inner.trace.calls
  behind :
    outcome =
      inner.behind
        [.logged
          (.dispatching command (env .containerId)
            (env .ifName))]

theorem Course.called_of_mem_calls
    (hCourse :
      Course c env handlers plugin about session outcome)
    {command : Command}
    {args : Args}
    (hCalled : (command, args) ∈ outcome.trace.calls) :
    ∃ inner,
      Called c env handlers plugin session outcome command
        args inner := by
  rcases hCourse.silent_or_performed with
    hSilent |
    ⟨config, named, inner, hReads, hRead, hCheck,
      hPerformed, hOutcome⟩
  · rw [hSilent.calls] at hCalled
    cases hCalled
  · have hInner : (command, args) ∈ inner.trace.calls := by
      simpa [hOutcome] using hCalled
    have hSame := ((hPerformed.mem_calls_iff _).1 hInner).1
    cases hSame
    exact
      ⟨inner, hReads, hRead, hCheck, rfl, hPerformed,
        hInner, hOutcome⟩

end Run

------------------------------------------------------------
-- The Gate
------------------------------------------------------------

/-
  What the calls of an invocation have to be: at most one,
  the one that is admitted, with texts copied from the
  environment and with the whole input, and carried out by
  the handler that is set, behind the decodings of its
  command.  Nothing but the decoder is used twice.
-/
structure CallsAsGated
    (c : Collaborators)
    (env : Environment)
    (handlers : Handlers)
    (plugin : Capabilities)
    (session : Session)
    (outcome : Outcome Unit) : Prop where
  atMostOne : outcome.trace.calls.length ≤ 1
  mem_iff :
    ∀ command args,
      (command, args) ∈ outcome.trace.calls ↔
        Admits c env handlers plugin session command args
  copied :
    ∀ command args,
      (command, args) ∈ outcome.trace.calls →
        args.containerId = env .containerId ∧
        args.netns = env .netns ∧
        args.ifName = env .ifName ∧
        args.args = env .args ∧
        args.path = env .path ∧
        args.netnsOverride = env .netnsOverride ∧
        session.stdin.readToEnd.1 = .ok args.config
  applied :
    ∀ command args,
      (command, args) ∈ outcome.trace.calls →
        ∃ handler,
          handlers.handler? command = some handler ∧
            outcome.session.stdout =
              (handler args session.stdout).stdout
  decodings :
    ∀ command args,
      (command, args) ∈ outcome.trace.calls →
        outcome.session.decodings =
          session.decodings +
            Negotiation.decodingsOf command
  consulted :
    outcome.trace.reconciliations.length ≤ 1 ∧
      outcome.trace.queries.length ≤ 1

/- Every invocation calls what it should, and only that. -/
theorem run_calls_as_gated
    (c : Collaborators)
    (env : Environment)
    (handlers : Handlers)
    (plugin : Capabilities)
    (about : String)
    (session : Session) :
    CallsAsGated c env handlers plugin session
      (run c env handlers plugin about session) := by
  have hCourse :=
    run_course c env handlers plugin about session
  constructor
  · exact hCourse.length_calls_le
  · exact hCourse.mem_calls_iff
  · intro command args hMem
    rcases hCourse.called_of_mem_calls hMem with
      ⟨inner, hCalled⟩
    have hRead := hCalled.read
    rw [hCalled.copied] at hRead ⊢
    exact ⟨rfl, rfl, rfl, rfl, rfl, rfl, hRead⟩
  · intro command args hMem
    rcases hCourse.called_of_mem_calls hMem with
      ⟨inner, hCalled⟩
    rw [hCalled.behind, Outcome.behind_session]
    exact hCalled.performed.stdout_of_mem_calls hCalled.mem
  · intro command args hMem
    rcases hCourse.called_of_mem_calls hMem with
      ⟨inner, hCalled⟩
    rw [hCalled.behind, Outcome.behind_session]
    exact
      hCalled.performed.decodings_of_mem_calls hCalled.mem
  · exact hCourse.consults_once

end Invocation

end NetPlugin
