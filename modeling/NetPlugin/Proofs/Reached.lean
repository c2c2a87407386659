import NetPlugin.Proofs.Execution
import NetPlugin.Proofs.HandlerGate

/-
  What follows where a handler was reached.

  The configuration is an object with a name, and with a
  version that the plugin lists.  The result of the handler
  decides, unless it succeeds: then the check of the
  namespace does, for the commands that have one.  The
  check neither writes nor calls anything.

  Main declarations:
    * `NetworkConfig.Declares`
    * `Invocation.Called.exists_version`
    * `Invocation.namespaceVerdict`
    * `Invocation.resultBehind`
    * `Invocation.Called.outcome_eq`
    * `Exit.Tells` and `Execution.run_tellsReply`
-/

------------------------------------------------------------
-- Configurations behind Their Checks
------------------------------------------------------------

namespace NetPlugin

namespace NetworkConfig

/-
  The version that members declare: their last one, or the
  first one of all where they declare none.
-/
inductive Declares (members : Json.Members) :
    Version.Token → Prop
  | explicit
      (text : String)
      (hSet : text ≠ "")
      (hLast :
        members.last? "cniVersion" = some (.string text)) :
      Declares members ⟨text⟩
  | implicit
      (hLast :
        members.last? "cniVersion" = none ∨
          members.last? "cniVersion" = some .null ∨
          members.last? "cniVersion" = some (.string "")) :
      Declares members ⟨"0.1.0"⟩

theorem declares_of_version
    {config : Bytes}
    {members : Json.Members}
    {token : Version.Token}
    (hValue :
      Json.Value.ofBytes config = .ok (.object members))
    (hVersion : version config = .ok token) :
    Declares members token := by
  unfold version textOf NetworkConfig.members at hVersion
  rw [hValue] at hVersion
  simp only [memberText] at hVersion
  cases hLast : members.last? versionKey with
  | none =>
      rw [hLast] at hVersion
      cases hVersion
      exact .implicit (Or.inl hLast)
  | some value =>
      rw [hLast] at hVersion
      cases value with
      | null =>
          cases hVersion
          exact .implicit (Or.inr (Or.inl hLast))
      | string text =>
          cases hVersion
          by_cases hSet : text = ""
          · subst hSet
            exact .implicit (Or.inr (Or.inr hLast))
          · rw [if_neg hSet]
            exact .explicit text hSet hLast
      | _ => cases hVersion

end NetworkConfig

namespace Invocation

/- A handler is reached with a version that is listed. -/
theorem Called.exists_version
    {namespaces : NamespaceQuery}
    {env : Environment}
    {handlers : Handlers}
    {plugin : Capabilities}
    {session : Session}
    {outcome inner : Outcome Unit}
    {command : Command}
    {args : Args}
    (hCalled :
      Called (Execution.collaborators namespaces) env
        handlers plugin session outcome command args
        inner) :
    ∃ version,
      NetworkConfig.version args.config = .ok version ∧
        version ∈ plugin.supported := by
  have hPasses :=
    ((hCalled.performed.mem_calls_iff _).1 hCalled.mem).2.2
  have hAgrees :
      ∃ count,
        Negotiation.Agrees
          (Execution.collaborators namespaces) plugin count
          args.config := by
    cases command with
    | check => exact ⟨_, hPasses.2⟩
    | gc => exact ⟨_, hPasses.2⟩
    | _ => exact ⟨_, hPasses⟩
  rcases hAgrees with ⟨_, version, hVersion, hReconcile⟩
  exact
    ⟨version, hVersion,
      (Version.reconcileWith_eq_ok_iff _ _).1 hReconcile⟩

end Invocation

------------------------------------------------------------
-- The Verdict
------------------------------------------------------------

namespace Invocation

/- What the check of the namespace says of a command. -/
def namespaceVerdict
    (c : Collaborators)
    (command : Command)
    (args : Args) : Except PluginError Unit :=
  if entersNamespace command && !args.isOverridden then
    match c.namespaces args.netns with
    | .error e => .error e
    | .ok true =>
        .error
          { code := .invalidNamespace
            message :=
              "plugin's netns and netns from CNI_NETNS " ++
                "should not be the same"
            details := "" }
    | .ok false => .ok ()
  else .ok ()

/- Other commands are not checked. -/
theorem namespaceVerdict_of_not_enters
    (c : Collaborators)
    {command : Command}
    (hEnters : entersNamespace command = false)
    (args : Args) :
    namespaceVerdict c command args = .ok () := by
  unfold namespaceVerdict
  simp [hEnters]

theorem Checked.result_eq
    {c : Collaborators}
    {command : Command}
    {args : Args}
    {session : Session}
    {outcome : Outcome Unit}
    (hChecked : Checked c args session outcome)
    (hEnters : entersNamespace command = true) :
    outcome.result = namespaceVerdict c command args := by
  unfold namespaceVerdict
  cases hChecked with
  | overridden hOverridden hOutcome =>
      simp [hOutcome, hOverridden]
  | unanswered e hOverridden hAnswer hOutcome =>
      simp [hOutcome, hEnters, hOverridden, hAnswer]
  | own hOverridden hAnswer hOutcome =>
      simp [hOutcome, hEnters, hOverridden, hAnswer,
        Netns.ownNamespace]
  | other hOverridden hAnswer hOutcome =>
      simp [hOutcome, hEnters, hOverridden, hAnswer]

------------------------------------------------------------
-- Behind a Handler
------------------------------------------------------------

/- What an invocation comes to behind a reply. -/
def resultBehind
    (c : Collaborators)
    (command : Command)
    (args : Args)
    (reply : Reply) : Except PluginError Unit :=
  match reply.result with
  | .error failure => .error failure.classify
  | .ok () => namespaceVerdict c command args

theorem Handled.result_eq
    {handlers : Handlers}
    {command : Command}
    {args : Args}
    {session : Session}
    {outcome : Outcome Unit}
    (hHandled :
      Handled handlers command args session outcome)
    {handler : Handler}
    (hHandler : handlers.handler? command = some handler) :
    outcome.result =
      (handler args session.stdout).result.mapError
        HandlerError.classify := by
  cases hHandled with
  | unset hUnset hOutcome =>
      rw [hHandler] at hUnset
      cases hUnset
  | finished other hOther hResult hOutcome =>
      rw [hHandler] at hOther
      cases hOther
      rw [hOutcome, hResult]
      rfl
  | failed other failure hOther hResult hOutcome =>
      rw [hHandler] at hOther
      cases hOther
      rw [hOutcome, hResult]
      rfl

/- A handler that was called has passed the negotiation. -/
theorem Performed.result_of_mem_calls
    {c : Collaborators}
    {handlers : Handlers}
    {plugin : Capabilities}
    {command : Command}
    {args : Args}
    {session : Session}
    {outcome : Outcome Unit}
    (hPerformed :
      Performed c handlers plugin command args session
        outcome)
    (hCalled : (command, args) ∈ outcome.trace.calls)
    {handler : Handler}
    (hHandler : handlers.handler? command = some handler) :
    outcome.result =
      resultBehind c command args
        (handler args session.stdout) := by
  cases hPerformed with
  | refused e hNegotiation hResult =>
      rw [hNegotiation.isQuiet.calls] at hCalled
      cases hCalled
  | ended negotiated handled hNegotiation hPassed hHandled
      hLast hOutcome =>
      have hResult := hHandled.result_eq hHandler
      rw [hNegotiation.isQuiet.stdout] at hResult
      unfold resultBehind
      rw [hOutcome, Outcome.behind_result, hResult]
      cases hReply : (handler args session.stdout).result with
      | error failure => rfl
      | ok finished =>
          -- Nothing follows success: there is no check.
          rw [hReply] at hResult
          rw [namespaceVerdict_of_not_enters c
            (hLast hResult)]
          rfl
  | checked negotiated handled last hNegotiation hPassed
      hHandled hFinished hEnters hChecked hOutcome =>
      have hReply := hHandled.succeeded hFinished hHandler
      rw [hNegotiation.isQuiet.stdout] at hReply
      unfold resultBehind
      rw [hOutcome, Outcome.behind_result,
        Outcome.behind_result, hReply,
        hChecked.result_eq hEnters]

/- The handler writes all that is written. -/
theorem Called.outcome_eq
    {c : Collaborators}
    {env : Environment}
    {handlers : Handlers}
    {plugin : Capabilities}
    {session : Session}
    {outcome inner : Outcome Unit}
    {command : Command}
    {args : Args}
    (hCalled :
      Called c env handlers plugin session outcome command
        args inner) :
    ∃ handler,
      handlers.handler? command = some handler ∧
        outcome.result =
          resultBehind c command args
            (handler args session.stdout) ∧
        outcome.session.stdout =
          (handler args session.stdout).stdout := by
  rcases hCalled.performed.stdout_of_mem_calls hCalled.mem with
    ⟨handler, hHandler, hStdout⟩
  refine ⟨handler, hHandler, ?_, ?_⟩
  · rw [hCalled.behind, Outcome.behind_result]
    exact
      hCalled.performed.result_of_mem_calls hCalled.mem
        hHandler
  · rw [hCalled.behind, Outcome.behind_session]
    exact hStdout

end Invocation

------------------------------------------------------------
-- Exits
------------------------------------------------------------

/- An exit with an error behind what was written before. -/
structure Exit.Reports
    (exit : Exit)
    (before : Bytes)
    (e : PluginError) : Prop where
  status : exit.status = 1
  stdout : exit.stdout = before ++ Utf8.encodeAll e.printed
  readsBack :
    PluginError.ofJson (Utf8.encodeAll e.printed) = .ok e

/- An exit that tells a result behind that. -/
def Exit.Tells
    (exit : Exit)
    (before : Bytes) : Except PluginError Unit → Prop
  | .ok () => exit.status = 0 ∧ exit.stdout = before
  | .error e => exit.Reports before e

namespace Execution

section Reached

variable {namespaces : NamespaceQuery} {launch : Launch}
variable {plugin : Plugin} {command : Command}
variable {args : Args}

/- A process tells the result of its invocation. -/
theorem run_tells
    (hWritable : launch.stdout.IsWritable)
    {bytes : Bytes}
    (hStdout :
      (invoke namespaces launch plugin).session.stdout =
        launch.stdout.keep bytes) :
    (run namespaces launch plugin).Tells
      (launch.stdout.written ++ bytes)
      (invoke namespaces launch plugin).result := by
  unfold run
  cases hResult :
      (invoke namespaces launch plugin).result with
  | ok finished =>
      have hPlain := plain_of_ok (logger launch) hResult
      refine ⟨hPlain.1, ?_⟩
      rw [hPlain.2, hStdout]
      rfl
  | error e =>
      constructor
      case status => exact (plain_of_error _ hResult).1
      case stdout =>
        rw [plain_stdout_of_isWritable _ hResult, hStdout]
        · rfl
        · rw [hStdout]
          exact hWritable.keep bytes
      case readsBack => exact e.readsBack.indented

variable (namespaces launch plugin command args)

/-
  A process tells what an invocation comes to behind a
  reply, and keeps what the handler wrote.
-/
def TellsReply (reply : Reply) : Prop :=
  ∀ bytes,
    reply.stdout = launch.stdout.keep bytes →
      (run namespaces launch plugin).Tells
        (launch.stdout.written ++ bytes)
        (Invocation.resultBehind (collaborators namespaces)
          command args reply)

variable {namespaces launch plugin command args}

/- Behind a handler that was reached, its reply decides. -/
theorem run_tellsReply
    (hWritable : launch.stdout.IsWritable)
    (hReached :
      (command, args) ∈
        (invoke namespaces launch plugin).trace.calls) :
    ∃ handler,
      plugin.handlers.handler? command = some handler ∧
        TellsReply namespaces launch plugin command args
          (handler args launch.stdout) := by
  have hCourse := invoke_course namespaces launch plugin
  rcases hCourse.called_of_mem_calls hReached with
    ⟨inner, hCalled⟩
  rcases hCalled.outcome_eq with
    ⟨handler, hHandler, hResult, hStdout⟩
  refine ⟨handler, hHandler, ?_⟩
  intro bytes hBytes
  have hTells :=
    run_tells hWritable (hStdout.trans hBytes)
  rw [hResult] at hTells
  exact hTells

end Reached

end Execution

end NetPlugin
