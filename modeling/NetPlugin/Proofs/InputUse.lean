import Mathlib.Data.List.Forall2
import NetPlugin.Proofs.HandlerGate
import NetPlugin.Proofs.Source
import NetPlugin.Series

/-
  What invocations that follow one another take from the
  input that they share.

  An invocation takes nothing or makes one reading.  Where
  a handler is called, the reading gave something, as no
  configuration is empty; and of such readings there are no
  more than the marks of the script allow.

  Main declarations:
    * `Invocation.UsesInput` and `Course.usesInput`
    * `Invocation.Course.calls_add_readings_le`
    * `Series.Turn` and `Series.runTurns`
    * `Series.runTurns_use_input`
-/

------------------------------------------------------------
-- One Invocation
------------------------------------------------------------

namespace NetPlugin

/- A configuration that is empty is refused. -/
theorem NetworkConfig.check_nil : check [] ≠ .ok () := by
  decide +kernel

namespace Invocation

section Performed

variable {c : Collaborators} {handlers : Handlers}
variable {plugin : Capabilities} {command : Command}
variable {args : Args} {session : Session}
variable {outcome : Outcome Unit}

/- A command has no access to the input. -/
theorem Performed.stdin
    (hPerformed :
      Performed c handlers plugin command args session
        outcome) :
    outcome.session.stdin = session.stdin := by
  cases hPerformed with
  | refused e hNegotiation hResult =>
      exact hNegotiation.isQuiet.stdin
  | ended negotiated handled hNegotiation hPassed hHandled
      hLast hOutcome =>
      rw [hOutcome, Outcome.behind_session,
        hHandled.leaves.stdin, hNegotiation.isQuiet.stdin]
  | checked negotiated handled last hNegotiation hPassed
      hHandled hFinished hEnters hChecked hOutcome =>
      rw [hOutcome, Outcome.behind_session,
        Outcome.behind_session, hChecked.leaves.session_eq,
        hHandled.leaves.stdin, hNegotiation.isQuiet.stdin]

end Performed

section Run

variable {c : Collaborators} {env : Environment}
variable {handlers : Handlers} {plugin : Capabilities}
variable {about : String} {session : Session}
variable {outcome : Outcome Unit}

/- Behind its request an invocation leaves the input. -/
theorem Course.stdin
    (hCourse :
      Course c env handlers plugin about session outcome) :
    outcome.session.stdin =
      (Request.resolve env session).session.stdin := by
  have hRequest := Request.resolve_course env session
  cases hCourse with
  | introduced e trace after hResolve hWants hOutcome =>
      rw [hOutcome, hResolve]
  | unresolved e trace after hResolve hWants hOutcome =>
      rw [hOutcome, hResolve]
  | reported hAccepted hCommand hOutcome =>
      have hNot : ¬ Request.Reads env :=
        fun hReads => hReads.2 hCommand
      rw [hRequest.session_of_not_reads hNot, hOutcome]
      rfl
  | unknown config hReads hRead hCheck hCommand hOutcome =>
      rw [hRequest.session_of_reads hReads, hOutcome]
  | performed config command inner hReads hRead hCheck
      hCommand hPerformed hOutcome =>
      rw [hRequest.session_of_reads hReads, hOutcome,
        Outcome.behind_session, hPerformed.stdin]

/- An input that cannot be read ends the invocation. -/
theorem Course.unreadable
    (hCourse :
      Course c env handlers plugin about session outcome)
    (hReads : Request.Reads env)
    {failure : IoError}
    (hRead : session.stdin.readToEnd.1 = .error failure) :
    outcome.result = .error (Step.unreadableInput failure) ∧
      outcome.trace.calls = [] := by
  have hRequest := Request.resolve_course env session
  have hResult :=
    hRequest.result_of_unreadable hReads hRead
  cases hCourse with
  | introduced e trace after hResolve hWants hOutcome =>
      exact
        absurd (command_of_wantsIntroduction hWants)
          hReads.1.command_ne_empty
  | unresolved e trace after hResolve hWants hOutcome =>
      have hSilent := Request.isSilent_of_resolve hResolve
      rw [hResolve] at hResult
      rw [hOutcome, Except.error.inj hResult]
      exact ⟨rfl, hSilent.calls⟩
  | reported hAccepted hCommand hOutcome =>
      exact absurd hCommand hReads.2
  | unknown config _ hOther hCheck hCommand hOutcome =>
      rw [hRead] at hOther
      cases hOther
  | performed config command inner _ hOther hCheck hCommand
      hPerformed hOutcome =>
      rw [hRead] at hOther
      cases hOther

/-
  What an invocation takes from the input: nothing for
  VERSION or for variables that are not accepted, and one
  reading otherwise, of which a failure is reported.
-/
structure UsesInput
    (env : Environment)
    (session : Session)
    (outcome : Outcome Unit) : Prop where
  untouched :
    env .command = Command.version.name ∨
        ¬ env.IsAccepted →
      outcome.session.stdin = session.stdin
  taken :
    Request.Reads env →
      session.stdin =
          session.stdin.taken ++ outcome.session.stdin ∧
        outcome.session.stdin = session.stdin.left
  given :
    Request.Reads env →
      ∀ request,
        (Request.resolve env session).result = .ok request →
          request.args.config = session.stdin.taken.bytes
  called :
    ∀ command args,
      (command, args) ∈ outcome.trace.calls →
        args.config = session.stdin.taken.bytes
  failed :
    Request.Reads env →
      ∀ failure,
        session.stdin.end? = some (.failure failure) →
          outcome.result =
              .error
                { code := .ioFailure
                  message :=
                    "error reading from stdin: " ++
                      failure.text
                  details := "" } ∧
            outcome.trace.calls = []

/- The configuration of a request is what was taken. -/
theorem config_of_resolve
    (hReads : Request.Reads env)
    {request : Request}
    (hResolve :
      (Request.resolve env session).result = .ok request) :
    request.args.config = session.stdin.taken.bytes := by
  have hRequest := Request.resolve_course env session
  cases hRequest with
  | reportAsked hAccepted hReport hOutcome =>
      exact absurd hReport hReads.2
  | resolved config _ hRead hCheck hOutcome =>
      rw [hOutcome] at hResolve
      cases hResolve
      exact Source.readToEnd_eq_ok hRead
  | _ =>
      rename_i hOutcome
      rw [hOutcome] at hResolve
      cases hResolve

theorem Course.usesInput
    (hCourse :
      Course c env handlers plugin about session outcome) :
    UsesInput env session outcome := by
  have hRequest := Request.resolve_course env session
  constructor
  · intro hNot
    rw [← Request.not_reads_iff] at hNot
    rw [hCourse.stdin, hRequest.session_of_not_reads hNot]
  · intro hReads
    have hLeft :
        outcome.session.stdin = session.stdin.left := by
      rw [hCourse.stdin, hRequest.session_of_reads hReads]
      exact session.stdin.readToEnd_rest
    rw [hLeft]
    exact ⟨session.stdin.taken_append_left.symm, rfl⟩
  · intro hReads request hResolve
    exact config_of_resolve hReads hResolve
  · intro command args hMem
    rcases hCourse.called_of_mem_calls hMem with
      ⟨inner, hCalled⟩
    exact Source.readToEnd_eq_ok hCalled.read
  · intro hReads failure hEnd
    exact
      hCourse.unreadable hReads
        (Source.readToEnd_eq_error hEnd)

/-
  Every call uses one of the readings up, as it was given
  something.
-/
theorem Course.calls_add_readings_le
    (hCourse :
      Course c env handlers plugin about session outcome) :
    outcome.trace.calls.length +
        outcome.session.stdin.readings ≤
      session.stdin.readings := by
  have hUses := hCourse.usesInput
  cases hCalls : outcome.trace.calls with
  | nil =>
      by_cases hReads : Request.Reads env
      · rw [(hUses.taken hReads).2]
        simpa using session.stdin.readings_left_le
      · rw [hUses.untouched
          ((Request.not_reads_iff env).1 hReads)]
        simp
  | cons call rest =>
      rcases call with ⟨command, args⟩
      have hMem : (command, args) ∈ outcome.trace.calls := by
        rw [hCalls]
        exact List.mem_cons_self
      have hLength := hCourse.length_calls_le
      rcases hCourse.called_of_mem_calls hMem with
        ⟨inner, hCalled⟩
      -- An empty configuration would have been refused.
      have hConfig : args.config ≠ [] := by
        intro hNil
        have hCheck := hCalled.check
        rw [hNil] at hCheck
        exact NetworkConfig.check_nil hCheck
      have hLess :=
        Source.readings_left_lt hCalled.read hConfig
      rw [(hUses.taken hCalled.reads).2]
      rw [hCalls] at hLength
      omega

/- A part of the input holds all that handlers were given. -/
theorem Course.exists_segment
    (hCourse :
      Course c env handlers plugin about session outcome) :
    ∃ segment,
      session.stdin = segment ++ outcome.session.stdin ∧
        ∀ command args,
          (command, args) ∈ outcome.trace.calls →
            args.config = segment.bytes := by
  have hUses := hCourse.usesInput
  by_cases hReads : Request.Reads env
  · exact
      ⟨session.stdin.taken, (hUses.taken hReads).1,
        hUses.called⟩
  · refine ⟨[], ?_, ?_⟩
    · rw [hUses.untouched
        ((Request.not_reads_iff env).1 hReads)]
      rfl
    · intro command args hMem
      rcases hCourse.called_of_mem_calls hMem with
        ⟨inner, hCalled⟩
      exact absurd hCalled.reads hReads

end Run

end Invocation

------------------------------------------------------------
-- Several Invocations
------------------------------------------------------------

namespace Series

/-
  A job, and the collaborators as they are by the time it
  is run, as their answers may change.
-/
structure Turn where
  collaborators : Collaborators
  job : Job

/- Run a job with its collaborators. -/
def Turn.run (turn : Turn) : Step Unit :=
  turn.job.run turn.collaborators

/- The outcomes of turns, one after the other. -/
def runTurns
    (session : Session) : List Turn → List (Outcome Unit)
  | [] => []
  | turn :: rest =>
      turn.run session ::
        runTurns (turn.run session).session rest

/- What the last of the turns leaves. -/
def finalOf (session : Session) : List Turn → Session
  | [] => session
  | turn :: rest => finalOf (turn.run session).session rest

/- A series of jobs is one of turns that share all. -/
theorem run_eq_runTurns
    (c : Collaborators)
    (session : Session)
    (jobs : List Job) :
    run c session jobs =
      runTurns session (jobs.map (Turn.mk c)) := by
  induction jobs generalizing session with
  | nil => rfl
  | cons job rest ih =>
      rw [List.map_cons, runTurns, ← ih]
      rfl

theorem final_eq_finalOf
    (c : Collaborators)
    (session : Session)
    (jobs : List Job) :
    final c session jobs =
      finalOf session (jobs.map (Turn.mk c)) := by
  induction jobs generalizing session with
  | nil => rfl
  | cons job rest ih =>
      rw [List.map_cons, finalOf, ← ih]
      rfl

/- The turns behind others begin with what those leave. -/
theorem runTurns_append
    (session : Session)
    (first second : List Turn) :
    runTurns session (first ++ second) =
      runTurns session first ++
        runTurns (finalOf session first) second := by
  induction first generalizing session with
  | nil => rfl
  | cons turn rest ih =>
      rw [List.cons_append, runTurns, ih]
      rfl

/- The course of the invocation of a turn. -/
theorem Turn.course
    (turn : Turn)
    (session : Session) :
    Invocation.Course turn.collaborators
      turn.job.environment turn.job.handlers
      turn.job.capabilities turn.job.about session
      (turn.run session) :=
  Invocation.run_course _ _ _ _ _ _

/- How many calls there were. -/
def callCount (outcomes : List (Outcome Unit)) : Nat :=
  (outcomes.flatMap fun outcome =>
    outcome.trace.calls).length

/- The calls of all turns use readings up. -/
theorem callCount_add_readings_le
    (session : Session)
    (turns : List Turn) :
    callCount (runTurns session turns) +
        (finalOf session turns).stdin.readings ≤
      session.stdin.readings := by
  induction turns generalizing session with
  | nil => simp [callCount, runTurns, finalOf]
  | cons turn rest ih =>
      have hFirst :=
        (turn.course session).calls_add_readings_le
      have hRest := ih (turn.run session).session
      unfold callCount at hRest ⊢
      rw [runTurns, finalOf, List.flatMap_cons,
        List.length_append]
      omega

/- The input is cut into parts, one for each of the turns. -/
theorem exists_segments
    (session : Session)
    (turns : List Turn) :
    ∃ segments : List Source,
      session.stdin =
          segments.flatten ++
            (finalOf session turns).stdin ∧
        List.Forall₂
          (fun segment outcome =>
            ∀ command args,
              (command, args) ∈ outcome.trace.calls →
                args.config = segment.bytes)
          segments (runTurns session turns) := by
  induction turns generalizing session with
  | nil => exact ⟨[], rfl, .nil⟩
  | cons turn rest ih =>
      rcases (turn.course session).exists_segment with
        ⟨segment, hSegment, hCalls⟩
      rcases ih (turn.run session).session with
        ⟨segments, hSegments, hRest⟩
      refine ⟨segment :: segments, ?_, .cons hCalls hRest⟩
      rw [List.flatten_cons, List.append_assoc, finalOf,
        ← hSegments]
      exact hSegment

/- There are no more calls than marks, and one more. -/
theorem callCount_le
    (session : Session)
    (turns : List Turn) :
    callCount (runTurns session turns) ≤
      1 + session.stdin.count .endOfFile := by
  have hReadings := callCount_add_readings_le session turns
  have hMarks := session.stdin.readings_le
  omega

/-
  Each of several invocations uses the input as it should.
  Together they call no more handlers than the script has
  marks, and one more; and what these are given are parts
  of the script that follow one another.
-/
theorem runTurns_use_input
    (session : Session)
    (turns : List Turn) :
    (∀ before turn after,
      turns = before ++ turn :: after →
        runTurns session turns =
            runTurns session before ++
              turn.run (finalOf session before) ::
                runTurns
                  (turn.run (finalOf session before)).session
                  after ∧
          Invocation.UsesInput turn.job.environment
            (finalOf session before)
            (turn.run (finalOf session before))) ∧
    callCount (runTurns session turns) ≤
      1 + session.stdin.count .endOfFile ∧
    (Source.Item.endOfFile ∉ session.stdin →
      callCount (runTurns session turns) ≤ 1) ∧
    ∃ segments : List Source,
      session.stdin =
          segments.flatten ++
            (finalOf session turns).stdin ∧
        List.Forall₂
          (fun segment outcome =>
            ∀ command args,
              (command, args) ∈ outcome.trace.calls →
                args.config = segment.bytes)
          segments (runTurns session turns) := by
  have hCount := callCount_le session turns
  refine ⟨?_, hCount, ?_, exists_segments session turns⟩
  · rintro before turn after rfl
    rw [runTurns_append]
    exact ⟨rfl, (turn.course _).usesInput⟩
  · intro hPlain
    rw [List.count_eq_zero.2 hPlain] at hCount
    exact hCount

end Series

end NetPlugin
