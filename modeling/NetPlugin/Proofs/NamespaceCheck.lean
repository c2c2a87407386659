import NetPlugin.Proofs.ErrorOrigin
import NetPlugin.Proofs.Text.Casing

/-
  When the namespace is checked, and what depends on it.

  The check comes last: behind a negotiation that passed
  and a handler that did not fail, for the commands that
  work on a namespace, unless it is switched off.  Nothing
  but its result depends on who identifies namespaces, so
  that two invocations which differ in this only are the
  same unless they ask.

  Main declarations:
    * `Args.IsOverride` and `isOverridden_iff`
    * `Invocation.ReachesCheck` and `Performed.reachesCheck`
    * `Invocation.Completes` and `Invocation.IsChecked`
    * `Step.SameUnlessAsked` and `run_sameUnlessAsked`
    * `Invocation.run_checks_namespace`
-/

------------------------------------------------------------
-- Overriding the Check
------------------------------------------------------------

namespace NetPlugin

namespace Args

/- A text that switches the check off. -/
def IsOverride (text : String) : Prop :=
  text = "1" ∨ text.toLower = "TRUE".toLower

theorem isTrue_iff (text : String) :
    isTrue text = true ↔
      text.toLower = "TRUE".toLower := by
  have hCapitals :
      ∀ capital ∈ "TRUE".toList,
        Casing.IsCapital capital := by
    simp [Casing.IsCapital]
  unfold isTrue String.toLower
  rw [beq_iff_eq, ← String.toList_inj, String.toList_map,
    String.toList_map,
    ← Casing.map_toUpper_eq_iff text.toList hCapitals]
  rfl

theorem isOverridden_iff (args : Args) :
    args.isOverridden = true ↔
      IsOverride args.netnsOverride := by
  unfold isOverridden IsOverride
  rw [Bool.or_eq_true, isTrue_iff, beq_iff_eq, or_comm]

end Args

------------------------------------------------------------
-- Commands That Reach the Check
------------------------------------------------------------

/- The handler of a command succeeds, if there is one. -/
def Handlers.Finish
    (handlers : Handlers)
    (command : Command)
    (args : Args)
    (stdout : Sink) : Prop :=
  ∀ handler,
    handlers.handler? command = some handler →
      (handler args stdout).result = .ok ()

namespace Invocation

section Performed

variable {c : Collaborators} {handlers : Handlers}
variable {plugin : Capabilities} {command : Command}
variable {args : Args} {session : Session}
variable {outcome : Outcome Unit}

theorem Handled.result_eq_ok_iff
    (hHandled :
      Handled handlers command args session outcome) :
    outcome.result = .ok () ↔
      handlers.Finish command args session.stdout := by
  unfold Handlers.Finish
  cases hHandled with
  | unset hHandler hOutcome => simp [hOutcome, hHandler]
  | finished handler hHandler hResult hOutcome =>
      simp [hOutcome, hHandler, hResult]
  | failed handler failure hHandler hResult hOutcome =>
      simp [hOutcome, hHandler, hResult]

/- What is made of the answer about a namespace. -/
structure FollowsAnswer
    (answer : Except PluginError Bool)
    (result : Except PluginError Unit) : Prop where
  failed : ∀ e, answer = .error e → result = .error e
  own :
    answer = .ok true →
      result =
        .error
          { code := .invalidNamespace
            message :=
              "plugin's netns and netns from CNI_NETNS " ++
                "should not be the same"
            details := "" }
  other : answer = .ok false → result = .ok ()

/- A check that is switched on asks, and follows. -/
theorem Checked.asks
    (hChecked : Checked c args session outcome)
    (hAsks : ¬ args.isOverridden = true) :
    outcome.trace = [.asked args.netns] ∧
      FollowsAnswer (c.namespaces args.netns)
        outcome.result := by
  cases hChecked with
  | overridden hOverridden hOutcome =>
      exact absurd hOverridden hAsks
  | unanswered e hOverridden hAnswer hOutcome =>
      rw [hOutcome, hAnswer]
      refine ⟨rfl, ?_⟩
      constructor <;> simp
  | own hOverridden hAnswer hOutcome =>
      rw [hOutcome, hAnswer]
      refine ⟨rfl, ?_⟩
      constructor <;> simp [Netns.ownNamespace]
  | other hOverridden hAnswer hOutcome =>
      rw [hOutcome, hAnswer]
      refine ⟨rfl, ?_⟩
      constructor <;> simp

/- One that is switched off succeeds. -/
theorem Checked.succeeds
    (hChecked : Checked c args session outcome)
    (hOverridden : args.isOverridden = true) :
    outcome.result = .ok () ∧ outcome.trace.queries = [] := by
  cases hChecked with
  | overridden _ hOutcome =>
      rw [hOutcome]
      exact ⟨rfl, rfl⟩
  | _ =>
      rename_i hNot _ _
      rw [hOverridden] at hNot
      cases hNot

/-
  The check is reached: before it the handler was called,
  and behind it there is nothing.
-/
structure ReachesCheck
    (c : Collaborators)
    (handlers : Handlers)
    (command : Command)
    (args : Args)
    (outcome : Outcome Unit)
    (before : Trace)
    (last : Outcome Unit) : Prop where
  checked : ∃ session, Checked c args session last
  calls :
    before.calls =
      if (handlers.handler? command).isSome then
        [(command, args)]
      else []
  queries : before.queries = []
  behind : outcome = last.behind before

/- A command that gets so far is checked. -/
theorem Performed.reachesCheck
    (hPerformed :
      Performed c handlers plugin command args session
        outcome)
    (hEnters : entersNamespace command = true)
    (hPasses :
      Negotiation.Passes c plugin session.decodings
        args.config command)
    (hFinish :
      handlers.Finish command args session.stdout) :
    ∃ before last,
      ReachesCheck c handlers command args outcome before
        last := by
  cases hPerformed with
  | refused e hNegotiation hResult =>
      rw [← hNegotiation.result_eq_ok_iff, hResult] at hPasses
      cases hPasses
  | ended negotiated handled hNegotiation hPassed hHandled
      hLast hOutcome =>
      rw [← hNegotiation.isQuiet.stdout,
        ← hHandled.result_eq_ok_iff] at hFinish
      rw [hLast hFinish] at hEnters
      cases hEnters
  | checked negotiated handled last hNegotiation hPassed
      hHandled hFinished _ hChecked hOutcome =>
      refine
        ⟨negotiated.trace ++ handled.trace, last,
          ⟨_, hChecked⟩, ?_, ?_, ?_⟩
      · simp [hNegotiation.isQuiet.calls,
          hHandled.leaves.calls]
      · simp [hNegotiation.isQuiet.queries,
          hHandled.leaves.queries]
      · rw [hOutcome, Outcome.behind_behind]

/- Any other command asks for no namespace. -/
theorem Performed.queries_of_not
    (hPerformed :
      Performed c handlers plugin command args session
        outcome)
    (hNot :
      ¬ (entersNamespace command = true ∧
        Negotiation.Passes c plugin session.decodings
          args.config command ∧
        handlers.Finish command args session.stdout)) :
    outcome.trace.queries = [] := by
  cases hPerformed with
  | refused e hNegotiation hResult =>
      exact hNegotiation.isQuiet.queries
  | ended negotiated handled hNegotiation hPassed hHandled
      hLast hOutcome =>
      simp [hOutcome, hNegotiation.isQuiet.queries,
        hHandled.leaves.queries]
  | checked negotiated handled last hNegotiation hPassed
      hHandled hFinished hEnters hChecked hOutcome =>
      rw [hNegotiation.result_eq_ok_iff] at hPassed
      rw [hHandled.result_eq_ok_iff,
        hNegotiation.isQuiet.stdout] at hFinished
      exact absurd ⟨hEnters, hPassed, hFinished⟩ hNot

end Performed

------------------------------------------------------------
-- Invocations That Reach the Check
------------------------------------------------------------

section Run

variable (c : Collaborators) (env : Environment)
variable (handlers : Handlers) (plugin : Capabilities)
variable (about : String) (session : Session)

/-
  A command is carried out up to its check: its request is
  resolved, its negotiation passes, and its handler does not
  fail, if there is one.
-/
structure Completes
    (command : Command)
    (args : Args) : Prop where
  named : env .command = command.name
  resolved :
    (Request.resolve env session).result =
      .ok ⟨command.name, args⟩
  passes :
    Negotiation.Passes c plugin session.decodings args.config
      command
  finish : handlers.Finish command args session.stdout

/- An invocation has to ask for the namespace. -/
def IsChecked : Prop :=
  (env .command = "ADD" ∨ env .command = "DEL") ∧
    (∃ command args,
      Completes c env handlers plugin session command
        args) ∧
    ¬ Args.IsOverride (env .netnsOverride)

variable {c env handlers plugin about session}
variable {command : Command} {args : Args}
variable {outcome : Outcome Unit}

/- A request that is resolved has what was copied. -/
theorem Completes.args_eq
    (hCompletes :
      Completes c env handlers plugin session command
        args) :
    args = .ofEnvironment env args.config := by
  have hRequest := Request.resolve_course env session
  have hResolved := hCompletes.resolved
  cases hRequest with
  | reportAsked hAccepted hReport hOutcome =>
      rw [hOutcome] at hResolved
      rcases Request.mk.inj (Except.ok.inj hResolved) with
        ⟨_, rfl⟩
      rfl
  | resolved config hReads hRead hCheck hOutcome =>
      rw [hOutcome] at hResolved
      rcases Request.mk.inj (Except.ok.inj hResolved) with
        ⟨_, rfl⟩
      rfl
  | _ =>
      rename_i hOutcome
      rw [hOutcome] at hResolved
      cases hResolved

theorem Completes.isOverridden_iff
    (hCompletes :
      Completes c env handlers plugin session command
        args) :
    args.isOverridden = true ↔
      Args.IsOverride (env .netnsOverride) := by
  rw [Args.isOverridden_iff, hCompletes.args_eq]
  rfl

/- The two names are those of commands with a check. -/
theorem Completes.entersNamespace_iff
    (hCompletes :
      Completes c env handlers plugin session command
        args) :
    entersNamespace command = true ↔
      env .command = "ADD" ∨ env .command = "DEL" := by
  rw [hCompletes.named]
  cases command <;> simp [entersNamespace, Command.name]

/- What completes is performed. -/
theorem Course.performed_of_completes
    (hCourse :
      Course c env handlers plugin about session outcome)
    (hCompletes :
      Completes c env handlers plugin session command args)
    (hEnters : entersNamespace command = true) :
    ∃ inner event,
      Performed c handlers plugin command args
          session.afterReading inner ∧
        outcome = inner.behind [.logged event] := by
  have hResolved := hCompletes.resolved
  have hNamed := hCompletes.named
  cases hCourse with
  | introduced e trace after hResolve hWants hOutcome =>
      rw [hResolve] at hResolved
      cases hResolved
  | unresolved e trace after hResolve hWants hOutcome =>
      rw [hResolve] at hResolved
      cases hResolved
  | reported hAccepted hReport hOutcome =>
      rw [hReport] at hNamed
      cases command <;> simp_all [entersNamespace, Command.name]
  | unknown config hReads hRead hCheck hCommand hOutcome =>
      rw [← Command.ofName?_eq_some_iff] at hNamed
      rw [Environment.command?, hNamed] at hCommand
      cases hCommand
  | performed config named inner hReads hRead hCheck
      hCommand hPerformed hOutcome =>
      rcases (Request.resolved_iff hReads hRead hCheck
          hCommand command args).1 ⟨hNamed, hResolved⟩ with
        ⟨rfl, rfl⟩
      exact ⟨inner, _, hPerformed, hOutcome⟩

/- So its check is reached. -/
theorem Course.reachesCheck
    (hCourse :
      Course c env handlers plugin about session outcome)
    (hCompletes :
      Completes c env handlers plugin session command args)
    (hEnters : entersNamespace command = true) :
    ∃ before last,
      ReachesCheck c handlers command args outcome before
        last := by
  rcases hCourse.performed_of_completes hCompletes hEnters
    with ⟨inner, event, hPerformed, hOutcome⟩
  rcases hPerformed.reachesCheck hEnters hCompletes.passes
      hCompletes.finish with
    ⟨before, last, hReaches⟩
  refine
    ⟨.logged event :: before, last, hReaches.checked, ?_, ?_,
      ?_⟩
  · simpa using hReaches.calls
  · simpa using hReaches.queries
  · rw [hOutcome, hReaches.behind, Outcome.behind_behind]
    rfl

/- An invocation that asks has completed its command. -/
theorem Course.completes_of_queries
    (hCourse :
      Course c env handlers plugin about session outcome)
    (hAsked : outcome.trace.queries ≠ []) :
    ∃ command args,
      entersNamespace command = true ∧
        Completes c env handlers plugin session command
          args := by
  cases hCourse with
  | introduced e trace after hResolve hWants hOutcome =>
      have hSilent := Request.isSilent_of_resolve hResolve
      simp [hOutcome, hSilent.queries] at hAsked
  | unresolved e trace after hResolve hWants hOutcome =>
      have hSilent := Request.isSilent_of_resolve hResolve
      simp [hOutcome, hSilent.queries] at hAsked
  | reported hAccepted hReport hOutcome =>
      rw [hOutcome] at hAsked
      exact absurd rfl hAsked
  | unknown config hReads hRead hCheck hCommand hOutcome =>
      rw [hOutcome] at hAsked
      exact absurd rfl hAsked
  | performed config command inner hReads hRead hCheck
      hCommand hPerformed hOutcome =>
      have hInner : inner.trace.queries ≠ [] := by
        simpa [hOutcome] using hAsked
      rcases not_imp_comm.1 hPerformed.queries_of_not hInner
        with ⟨hEnters, hPasses, hFinish⟩
      rcases (Request.resolved_iff hReads hRead hCheck
          hCommand command
          (.ofEnvironment env config)).2 ⟨rfl, rfl⟩ with
        ⟨hNamed, hResolved⟩
      exact
        ⟨command, _, hEnters, hNamed, hResolved, hPasses,
          hFinish⟩

end Run

end Invocation

------------------------------------------------------------
-- What Does Not Depend on the Answer
------------------------------------------------------------

namespace Step

variable {α β : Type}

/-
  Two steps leave the same, and come to the same result
  unless they ask for a namespace.
-/
def SameUnlessAsked (one two : Step α) : Prop :=
  ∀ session,
    (one session).trace = (two session).trace ∧
      (one session).session = (two session).session ∧
      ((one session).trace.queries = [] →
        (one session).result = (two session).result)

theorem SameUnlessAsked.refl (step : Step α) :
    SameUnlessAsked step step :=
  fun _ => ⟨rfl, rfl, fun _ => rfl⟩

/- What comes before the steps is left out. -/
theorem SameUnlessAsked.bind
    (first : Step α)
    {next other : α → Step β}
    (hNext :
      ∀ value, SameUnlessAsked (next value) (other value)) :
    SameUnlessAsked (first >>= next) (first >>= other) := by
  intro session
  rcases hFirst : first session with ⟨result, trace, after⟩
  cases result with
  | error e =>
      rw [bind_eq_error hFirst, bind_eq_error hFirst]
      exact ⟨rfl, rfl, fun _ => rfl⟩
  | ok value =>
      rw [bind_eq_behind hFirst, bind_eq_behind hFirst]
      rcases hNext value after with
        ⟨hTrace, hSession, hResult⟩
      refine ⟨?_, hSession, ?_⟩
      · rw [Outcome.behind_trace, Outcome.behind_trace,
          hTrace]
      · intro hQueries
        rw [Outcome.behind_trace, Trace.queries_append,
          List.append_eq_nil_iff] at hQueries
        exact hResult hQueries.2

end Step

/- The same collaborators, but for one of them. -/
def Collaborators.identifyingBy
    (c : Collaborators)
    (namespaces : NamespaceQuery) : Collaborators :=
  { c with namespaces }

namespace Invocation

section Identities

variable (c : Collaborators) (namespaces : NamespaceQuery)
variable (handlers : Handlers) (plugin : Capabilities)
variable (command : Command) (args : Args)

/- The check asks the same, whatever the answer is. -/
theorem checkNamespace_sameUnlessAsked :
    Step.SameUnlessAsked (checkNamespace c args)
      (checkNamespace (c.identifyingBy namespaces) args) := by
  intro session
  have hOne := checkNamespace_checked c args session
  have hTwo :=
    checkNamespace_checked (c.identifyingBy namespaces) args
      session
  cases hOverridden : args.isOverridden with
  | true =>
      unfold checkNamespace
      rw [hOverridden]
      exact ⟨rfl, rfl, fun _ => rfl⟩
  | false =>
      cases hOne with
      | overridden hOther hOutcome =>
          rw [hOverridden] at hOther
          cases hOther
      | _ =>
          rename_i hOutcome
          cases hTwo with
          | overridden hOther hOutcome =>
              rw [hOverridden] at hOther
              cases hOther
          | _ =>
              rename_i hOutcomeTwo
              simp [hOutcome, hOutcomeTwo]

/- The negotiation does without this collaborator. -/
theorem negotiate_identifyingBy (config : Bytes) :
    Negotiation.negotiate (c.identifyingBy namespaces) plugin
        command config =
      Negotiation.negotiate c plugin command config := rfl

theorem perform_sameUnlessAsked :
    Step.SameUnlessAsked
      (perform c handlers plugin command args)
      (perform (c.identifyingBy namespaces) handlers plugin
        command args) := by
  unfold perform
  rw [negotiate_identifyingBy]
  apply Step.SameUnlessAsked.bind
  intro _
  apply Step.SameUnlessAsked.bind
  intro _
  cases entersNamespace command with
  | true =>
      exact checkNamespace_sameUnlessAsked c namespaces args
  | false => exact .refl _

theorem fulfil_sameUnlessAsked (request : Request) :
    Step.SameUnlessAsked (fulfil c handlers plugin request)
      (fulfil (c.identifyingBy namespaces) handlers plugin
        request) := by
  unfold fulfil
  apply Step.SameUnlessAsked.bind
  intro command
  apply Step.SameUnlessAsked.bind
  intro _
  by_cases hReport : command = .version
  · subst hReport
    exact .refl _
  · unfold serve
    rw [if_neg hReport, if_neg hReport]
    exact
      perform_sameUnlessAsked c namespaces handlers plugin
        command request.args

/- So it is for whole invocations. -/
theorem run_sameUnlessAsked
    (env : Environment)
    (about : String) :
    Step.SameUnlessAsked (run c env handlers plugin about)
      (run (c.identifyingBy namespaces) env handlers plugin
        about) := by
  unfold run
  apply Step.SameUnlessAsked.bind
  intro resolved
  cases resolved with
  | error e => exact .refl _
  | ok request =>
      exact
        fulfil_sameUnlessAsked c namespaces handlers plugin
          request

end Identities

------------------------------------------------------------
-- The Check
------------------------------------------------------------

/-
  When an invocation asks for its namespace, where in its
  trace, and what it makes of the answer.
-/
structure ChecksNamespace
    (c : Collaborators)
    (env : Environment)
    (handlers : Handlers)
    (plugin : Capabilities)
    (session : Session)
    (outcome : Outcome Unit) : Prop where
  asked_iff :
    outcome.trace.queries ≠ [] ↔
      IsChecked c env handlers plugin session
  asked_once :
    IsChecked c env handlers plugin session →
      outcome.trace.queries = [env .netns]
  asked_last :
    IsChecked c env handlers plugin session →
      ∃ before : Trace,
        outcome.trace = before ++ [.asked (env .netns)] ∧
          ∀ command args,
            Completes c env handlers plugin session command
                args →
              (handlers.handler? command).isSome →
                before.calls = [(command, args)]
  answered :
    IsChecked c env handlers plugin session →
      FollowsAnswer (c.namespaces (env .netns))
        outcome.result
  overridden :
    env .command = "ADD" ∨ env .command = "DEL" →
    Args.IsOverride (env .netnsOverride) →
      ∀ command args,
        Completes c env handlers plugin session command
            args →
          outcome.result = .ok ()

section Run

variable {c : Collaborators} {env : Environment}
variable {handlers : Handlers} {plugin : Capabilities}
variable {about : String} {session : Session}
variable {command : Command} {args : Args}
variable {outcome : Outcome Unit}

/- Where the check is reached, it is overridden or asks. -/
theorem Course.asks_of_completes
    (hCourse :
      Course c env handlers plugin about session outcome)
    (hCompletes :
      Completes c env handlers plugin session command args)
    (hEnters : entersNamespace command = true)
    (hAsks : ¬ Args.IsOverride (env .netnsOverride)) :
    (∃ before : Trace,
      outcome.trace = before ++ [.asked (env .netns)] ∧
        before.queries = [] ∧
        before.calls =
          if (handlers.handler? command).isSome then
            [(command, args)]
          else []) ∧
      FollowsAnswer (c.namespaces (env .netns))
        outcome.result := by
  have hNetns : args.netns = env .netns := by
    rw [hCompletes.args_eq]
    rfl
  rcases hCourse.reachesCheck hCompletes hEnters with
    ⟨before, last, hReaches⟩
  rcases hReaches.checked with ⟨_, hChecked⟩
  rw [← hCompletes.isOverridden_iff] at hAsks
  rcases hChecked.asks hAsks with ⟨hTrace, hFollows⟩
  rw [hNetns] at hTrace hFollows
  rw [hReaches.behind, Outcome.behind_trace, hTrace]
  exact
    ⟨⟨before, rfl, hReaches.queries, hReaches.calls⟩,
      hFollows⟩

theorem Course.succeeds_of_completes
    (hCourse :
      Course c env handlers plugin about session outcome)
    (hCompletes :
      Completes c env handlers plugin session command args)
    (hEnters : entersNamespace command = true)
    (hOverride : Args.IsOverride (env .netnsOverride)) :
    outcome.result = .ok () ∧ outcome.trace.queries = [] := by
  rcases hCourse.reachesCheck hCompletes hEnters with
    ⟨before, last, hReaches⟩
  rcases hReaches.checked with ⟨_, hChecked⟩
  rw [← hCompletes.isOverridden_iff] at hOverride
  rcases hChecked.succeeds hOverride with
    ⟨hFinished, hQueries⟩
  rw [hReaches.behind, Outcome.behind_trace,
    Trace.queries_append, hReaches.queries, hQueries]
  exact ⟨hFinished, rfl⟩

/- What is checked asks once, behind all it has done. -/
theorem Course.asks
    (hCourse :
      Course c env handlers plugin about session outcome)
    (hChecked : IsChecked c env handlers plugin session) :
    outcome.trace.queries = [env .netns] ∧
      FollowsAnswer (c.namespaces (env .netns))
        outcome.result := by
  rcases hChecked with
    ⟨hCommand, ⟨command, args, hCompletes⟩, hAsks⟩
  have hEnters := hCompletes.entersNamespace_iff.2 hCommand
  rcases hCourse.asks_of_completes hCompletes hEnters hAsks
    with ⟨⟨before, hTrace, hQueries, _⟩, hFollows⟩
  rw [hTrace, Trace.queries_append, hQueries]
  exact ⟨rfl, hFollows⟩

/- An invocation asks exactly if it is checked. -/
theorem Course.queries_iff
    (hCourse :
      Course c env handlers plugin about session outcome) :
    outcome.trace.queries ≠ [] ↔
      IsChecked c env handlers plugin session := by
  constructor
  · intro hAsked
    rcases hCourse.completes_of_queries hAsked with
      ⟨command, args, hEnters, hCompletes⟩
    refine
      ⟨hCompletes.entersNamespace_iff.1 hEnters,
        ⟨command, args, hCompletes⟩, ?_⟩
    intro hOverride
    exact
      hAsked
        (hCourse.succeeds_of_completes hCompletes hEnters
          hOverride).2
  · intro hChecked
    rw [(hCourse.asks hChecked).1]
    exact List.cons_ne_nil _ _

theorem Course.checksNamespace
    (hCourse :
      Course c env handlers plugin about session outcome) :
    ChecksNamespace c env handlers plugin session
      outcome := by
  constructor
  case asked_iff => exact hCourse.queries_iff
  case asked_once =>
    intro hChecked
    exact (hCourse.asks hChecked).1
  case asked_last =>
    rintro ⟨hCommand, ⟨command, args, hCompletes⟩, hAsks⟩
    have hEnters := hCompletes.entersNamespace_iff.2 hCommand
    rcases
      (hCourse.asks_of_completes hCompletes hEnters hAsks).1
      with ⟨before, hTrace, _, hCalls⟩
    refine ⟨before, hTrace, ?_⟩
    intro other others hOther hSet
    rcases Request.resolved_unique hCompletes.resolved
        hOther.resolved with
      ⟨rfl, rfl⟩
    rw [hCalls, if_pos hSet]
  case answered =>
    intro hChecked
    exact (hCourse.asks hChecked).2
  case overridden =>
    intro hCommand hOverride command args hCompletes
    have hEnters := hCompletes.entersNamespace_iff.2 hCommand
    exact
      (hCourse.succeeds_of_completes hCompletes hEnters
        hOverride).1

end Run

/-
  An invocation checks its namespace as it should, and it
  leaves the same whoever identifies namespaces; unless it
  is checked, it comes to the same result as well.
-/
theorem run_checks_namespace
    (c : Collaborators)
    (env : Environment)
    (handlers : Handlers)
    (plugin : Capabilities)
    (about : String)
    (session : Session) :
    ChecksNamespace c env handlers plugin session
        (run c env handlers plugin about session) ∧
      ∀ namespaces : NamespaceQuery,
        (run c env handlers plugin about session).trace =
            (run (c.identifyingBy namespaces) env handlers
              plugin about session).trace ∧
          (run c env handlers plugin about session).session =
            (run (c.identifyingBy namespaces) env handlers
              plugin about session).session ∧
          (¬ IsChecked c env handlers plugin session →
            run c env handlers plugin about session =
              run (c.identifyingBy namespaces) env handlers
                plugin about session) := by
  have hCourse :=
    run_course c env handlers plugin about session
  refine ⟨hCourse.checksNamespace, ?_⟩
  intro namespaces
  rcases run_sameUnlessAsked c namespaces handlers plugin env
      about session with
    ⟨hTrace, hSession, hResult⟩
  refine ⟨hTrace, hSession, ?_⟩
  intro hNot
  rw [← hCourse.queries_iff, not_not] at hNot
  exact Outcome.ext (hResult hNot) hTrace hSession

/- A plugin without handlers still asks behind ADD. -/
example :
    (run { namespaces := .fixed none none }
      (.ofPairs
        [("CNI_COMMAND", "ADD"), ("CNI_CONTAINERID", "a"),
          ("CNI_NETNS", "/ns"), ("CNI_IFNAME", "eth0"),
          ("CNI_PATH", "/bin")])
      {} .all ""
      { stdin :=
          [.chunk
            (Utf8.encode
              "\x7b\"name\":\"n\"\x7d")] }).trace.queries =
      ["/ns"] := by
  decide +kernel

end Invocation

end NetPlugin
