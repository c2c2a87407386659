import NetPlugin.Session

/-
  Steps in sequence, and the views of their traces.

  A sequence of steps is opened from the left: its first
  step has failed, or the others go on behind its trace.

  Main declarations:
    * `Outcome.behind`
    * `Step.bind_eq_behind`
    * `Step.bind_observe` and `Step.bind_ofResult_ok`
-/

------------------------------------------------------------
-- Traces
------------------------------------------------------------

namespace NetPlugin

attribute [simp] Observation.event? Observation.call?
  Observation.query?

/- The version that the reconciler was asked about. -/
@[simp]
def Observation.reconciliation? :
    Observation → Option Version.Token
  | .reconciled config => some config
  | _ => none

namespace Trace

/- The questions to the reconciler of a trace. -/
def reconciliations (trace : Trace) : List Version.Token :=
  trace.filterMap Observation.reconciliation?

@[simp]
theorem reconciliations_nil :
    Trace.reconciliations [] = [] := rfl

@[simp]
theorem reconciliations_cons
    (observation : Observation)
    (rest : Trace) :
    Trace.reconciliations (observation :: rest) =
      observation.reconciliation?.toList ++
        Trace.reconciliations rest := by
  cases observation <;> rfl

@[simp]
theorem reconciliations_append (first second : Trace) :
    Trace.reconciliations (first ++ second) =
      Trace.reconciliations first ++
        Trace.reconciliations second :=
  List.filterMap_append

@[simp]
theorem calls_nil : Trace.calls [] = [] := rfl

@[simp]
theorem queries_nil : Trace.queries [] = [] := rfl

@[simp]
theorem calls_cons
    (observation : Observation)
    (rest : Trace) :
    Trace.calls (observation :: rest) =
      observation.call?.toList ++ Trace.calls rest := by
  cases observation <;> rfl

@[simp]
theorem queries_cons
    (observation : Observation)
    (rest : Trace) :
    Trace.queries (observation :: rest) =
      observation.query?.toList ++ Trace.queries rest := by
  cases observation <;> rfl

/- Nothing that is logged is a call of a handler. -/
@[simp]
theorem calls_map_logged (events : List Log.Event) :
    Trace.calls (events.map .logged) = [] := by
  induction events with
  | nil => rfl
  | cons event rest ih => simp [ih]

@[simp]
theorem queries_map_logged (events : List Log.Event) :
    Trace.queries (events.map .logged) = [] := by
  induction events with
  | nil => rfl
  | cons event rest ih => simp [ih]

@[simp]
theorem reconciliations_map_logged
    (events : List Log.Event) :
    Trace.reconciliations (events.map .logged) = [] := by
  induction events with
  | nil => rfl
  | cons event rest ih => simp [ih]

/- Nobody was called or asked. -/
structure IsSilent (trace : Trace) : Prop where
  calls : trace.calls = []
  queries : trace.queries = []
  reconciliations : trace.reconciliations = []

end Trace

------------------------------------------------------------
-- Outcomes
------------------------------------------------------------

attribute [ext] Outcome

namespace Outcome

variable {α : Type}

/- The same outcome with an earlier trace in front. -/
def behind
    (earlier : Trace)
    (outcome : Outcome α) : Outcome α :=
  { outcome with trace := earlier ++ outcome.trace }

@[simp]
theorem behind_result
    (earlier : Trace)
    (outcome : Outcome α) :
    (outcome.behind earlier).result = outcome.result := rfl

@[simp]
theorem behind_trace
    (earlier : Trace)
    (outcome : Outcome α) :
    (outcome.behind earlier).trace =
      earlier ++ outcome.trace := rfl

@[simp]
theorem behind_session
    (earlier : Trace)
    (outcome : Outcome α) :
    (outcome.behind earlier).session =
      outcome.session := rfl

@[simp]
theorem behind_nil (outcome : Outcome α) :
    outcome.behind [] = outcome := rfl

theorem behind_behind
    (first second : Trace)
    (outcome : Outcome α) :
    (outcome.behind second).behind first =
      outcome.behind (first ++ second) := by
  simp [behind]

end Outcome

------------------------------------------------------------
-- Sequences
------------------------------------------------------------

namespace Step

variable {α β : Type}

/- Behind a success the second step goes on. -/
theorem bind_eq_behind
    {first : Step α}
    {session after : Session}
    {trace : Trace}
    {value : α}
    (hFirst : first session = ⟨.ok value, trace, after⟩)
    (next : α → Step β) :
    (first >>= next) session =
      (next value after).behind trace := by
  have hResult : (first session).result = .ok value := by
    rw [hFirst]
  rw [bind_of_ok hResult, hFirst]
  rfl

/- A failure of the first step is the outcome of both. -/
theorem bind_eq_error
    {first : Step α}
    {session after : Session}
    {trace : Trace}
    {e : PluginError}
    (hFirst : first session = ⟨.error e, trace, after⟩)
    (next : α → Step β) :
    (first >>= next) session =
      ⟨.error e, trace, after⟩ := by
  have hResult : (first session).result = .error e := by
    rw [hFirst]
  rw [bind_of_error hResult, hFirst]

/- An observation never fails. -/
theorem bind_observe
    (observation : Observation)
    (next : Unit → Step β)
    (session : Session) :
    (observe observation >>= next) session =
      (next () session).behind [observation] := rfl

theorem bind_log
    (event : Log.Event)
    (next : Unit → Step β)
    (session : Session) :
    (log event >>= next) session =
      (next () session).behind [.logged event] := rfl

/- A known result leaves no trace. -/
theorem bind_ofResult_ok
    {result : Except PluginError α}
    {value : α}
    (hResult : result = .ok value)
    (next : α → Step β)
    (session : Session) :
    (ofResult result >>= next) session =
      next value session := by
  rw [hResult]
  rfl

theorem bind_ofResult_error
    {result : Except PluginError α}
    {e : PluginError}
    (hResult : result = .error e)
    (next : α → Step β)
    (session : Session) :
    (ofResult result >>= next) session =
      ⟨.error e, [], session⟩ := by
  rw [hResult]
  rfl

/- Nothing is what can be left out behind a step. -/
theorem bind_pure_unit (step : Step Unit) :
    (step >>= fun _ => pure ()) = step := by
  funext session
  rcases hStep : step session with ⟨result, trace, after⟩
  cases result with
  | error e => rw [bind_eq_error hStep]
  | ok done =>
      rw [bind_eq_behind hStep]
      simp [pure_apply, Outcome.behind]

end Step

end NetPlugin
