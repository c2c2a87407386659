import NetPlugin.Proofs.Introduction
import NetPlugin.Proofs.Output
import NetPlugin.Proofs.VersionReport

/-
  What invocations that follow one another write to the
  streams that they share.

  The standard output only has reports of VERSION, which
  are cut where writing fails, and the error stream only
  has introductions, as long as the handlers leave the
  output alone.  How the streams behave does not matter,
  and they may behave differently for every invocation.

  Main declarations:
    * `Sink.since`
    * `Invocation.KeepsDiscipline` and `run_keepsDiscipline`
    * `Series.Interlude`, `Series.Stage` and `Series.visits`
    * `Series.visits_keep_discipline`
-/

------------------------------------------------------------
-- What Was Added
------------------------------------------------------------

namespace NetPlugin

namespace Sink

/- What a sink holds behind the bytes of an earlier one. -/
def since (sink earlier : Sink) : Bytes :=
  sink.written.drop earlier.written.length

theorem since_of_written
    {sink earlier : Sink}
    {added : Bytes}
    (hWritten : sink.written = earlier.written ++ added) :
    sink.since earlier = added := by
  simp [since, hWritten]

/- A sink that was only added to. -/
theorem written_eq_append_since
    {sink earlier : Sink}
    (hGrown :
      ∃ added, sink.written = earlier.written ++ added) :
    sink.written = earlier.written ++ sink.since earlier := by
  rcases hGrown with ⟨added, hWritten⟩
  rw [since_of_written hWritten, hWritten]

end Sink

------------------------------------------------------------
-- One Invocation
------------------------------------------------------------

namespace Invocation

/- An introduction is added to what a sink holds. -/
theorem exists_written_introduction
    (about : String)
    (plugin : Capabilities)
    (sink : Sink) :
    ∃ added,
      (introduction about plugin sink).written =
        sink.written ++ added := by
  rcases exists_prefix_of_introduction about plugin sink with
    ⟨first, second, _, _, hWritten⟩
  exact
    ⟨first ++ second,
      hWritten.trans (List.append_assoc _ _ _)⟩

/- All of the report was written, but not flushed. -/
def OnlyFlushFails
    (plugin : Capabilities)
    (session : Session)
    (outcome : Outcome Unit) : Prop :=
  (session.stdout.writeAll plugin.report).1 = .ok () ∧
    ∃ failure,
      session.stdout.flushFault = some failure ∧
        outcome.result =
          .error
            { code := .ioFailure
              message := failure.text
              details := "" }

/-
  What an invocation may do to the two streams.  A stream
  that stays equal was not written to at all.
-/
structure KeepsDiscipline
    (env : Environment)
    (plugin : Capabilities)
    (about : String)
    (session : Session)
    (outcome : Outcome Unit) : Prop where
  stdout_eq :
    env .command ≠ "VERSION" →
      outcome.session.stdout = session.stdout
  stdout_grows :
    outcome.session.stdout.written =
      session.stdout.written ++
        outcome.session.stdout.since session.stdout
  reported :
    env .command = "VERSION" →
      outcome.session.stdout.since session.stdout <+:
          plugin.report ∧
        (outcome.session.stdout.since session.stdout =
            plugin.report ↔
          outcome.result = .ok () ∨
            OnlyFlushFails plugin session outcome)
  accepted :
    env .command = "VERSION" →
      ¬ session.stdout.Refuses plugin.report →
        outcome.session.stdout.since session.stdout =
          plugin.report
  stderr_eq :
    ¬ (env .command = "" ∧ about ≠ "") →
      outcome.session.stderr = session.stderr
  stderr_grows :
    outcome.session.stderr.written =
      session.stderr.written ++
        outcome.session.stderr.since session.stderr
  failed :
    ∀ e,
      outcome.result = .error e →
      env .command ≠ "VERSION" →
        outcome.session.stdout = session.stdout ∧
          outcome.session.stderr = session.stderr

section Streams

variable {c : Collaborators} {env : Environment}
variable {handlers : Handlers} {plugin : Capabilities}
variable {about : String} {session : Session}
variable {outcome : Outcome Unit}

/- A report that is refused is cut, and the others are not. -/
theorem OnlyReports.since_stdout
    (hReports : OnlyReports plugin session outcome) :
    (∃ room, outcome.session.stdout.written =
      session.stdout.written ++ plugin.report.take room) ∧
      (outcome.session.stdout.since session.stdout =
          plugin.report ↔
        ¬ session.stdout.Refuses plugin.report) := by
  by_cases hRefuses : session.stdout.Refuses plugin.report
  · rcases hRefuses with ⟨stop, hStop, hExceeds⟩
    have hWritten := hReports.cut stop hStop hExceeds
    have hCut :
        plugin.report.take stop.fault.room ≠
          plugin.report := by
      intro hSame
      have hLength := congrArg List.length hSame
      rw [List.length_take] at hLength
      omega
    refine ⟨⟨_, hWritten⟩, ?_⟩
    rw [Sink.since_of_written hWritten]
    exact
      iff_of_false hCut
        (not_not_intro ⟨stop, hStop, hExceeds⟩)
  · have hWritten := hReports.whole hRefuses
    refine ⟨⟨plugin.report.length, ?_⟩, ?_⟩
    · rw [List.take_length]
      exact hWritten
    · rw [Sink.since_of_written hWritten]
      exact iff_of_true rfl hRefuses

/- A report that is not refused succeeds up to its flush. -/
theorem OnlyReports.not_refuses_iff
    (hReports : OnlyReports plugin session outcome) :
    ¬ session.stdout.Refuses plugin.report ↔
      outcome.result = .ok () ∨
        OnlyFlushFails plugin session outcome := by
  have hWrites :=
    session.stdout.writeAll_eq_ok_iff plugin.report
  constructor
  · intro hNot
    cases hFault : session.stdout.flushFault with
    | none => exact Or.inl (hReports.finished.2 ⟨hNot, hFault⟩)
    | some failure =>
        exact
          Or.inr
            ⟨hWrites.2 hNot, failure, hFault,
              hReports.unflushed hNot failure hFault⟩
  · rintro (hFinished | hFlush)
    · exact (hReports.finished.1 hFinished).1
    · exact hWrites.1 hFlush.1

theorem Course.exists_written_stderr
    (hCourse :
      Course c env handlers plugin about session outcome) :
    ∃ added,
      outcome.session.stderr.written =
        session.stderr.written ++ added := by
  rcases hCourse.stderr_cases with
    hSame | ⟨_, _, _, hIntroduced⟩
  · rw [hSame]
    exact ⟨[], (List.append_nil _).symm⟩
  · rw [hIntroduced]
    exact exists_written_introduction about plugin _

variable (c env about session)

/- Every invocation keeps the discipline, however it ends. -/
theorem run_keepsDiscipline
    (plugin : Capabilities)
    (hLeave : handlers.LeaveOutput) :
    KeepsDiscipline env plugin about session
      (run c env handlers plugin about session) := by
  have hCourse :=
    run_course c env handlers plugin about session
  have hOther := (hCourse.writes hLeave).stdout_of_command_ne
  have hStderr := hCourse.exists_written_stderr
  have hReport :
      env .command = "VERSION" →
        OnlyReports plugin session
          (run c env handlers plugin about session) :=
    run_onlyReports c handlers plugin about session
  constructor
  case stdout_eq => exact hOther
  case stdout_grows =>
    apply Sink.written_eq_append_since
    by_cases hCommand : env .command = "VERSION"
    · rcases (hReport hCommand).since_stdout.1 with
        ⟨room, hWritten⟩
      exact ⟨_, hWritten⟩
    · rw [hOther hCommand]
      exact ⟨[], (List.append_nil _).symm⟩
  case reported =>
    intro hCommand
    have hReports := hReport hCommand
    rcases hReports.since_stdout with
      ⟨⟨room, hWritten⟩, hWhole⟩
    rw [← hReports.not_refuses_iff]
    refine ⟨?_, hWhole⟩
    rw [Sink.since_of_written hWritten]
    exact List.take_prefix room plugin.report
  case accepted =>
    intro hCommand hNot
    exact (hReport hCommand).since_stdout.2.2 hNot
  case stderr_eq =>
    intro hNot
    rcases hCourse.stderr_cases with
      hSame | ⟨hCommand, hAbout, _⟩
    · exact hSame
    · exact absurd ⟨hCommand, hAbout⟩ hNot
  case stderr_grows =>
    exact Sink.written_eq_append_since hStderr
  case failed =>
    intro e hError hCommand
    exact ⟨hOther hCommand, hCourse.stderr_of_error hError⟩

end Streams

end Invocation

------------------------------------------------------------
-- Several Invocations
------------------------------------------------------------

namespace Series

/-
  What happens to the streams between two turns: anything,
  but what was written to them stays.
-/
structure Interlude where
  after : Session → Session
  stdout :
    ∀ session,
      (after session).stdout.written = session.stdout.written
  stderr :
    ∀ session,
      (after session).stderr.written = session.stderr.written

/- Nothing happens. -/
def Interlude.none : Interlude where
  after := id
  stdout := fun _ => rfl
  stderr := fun _ => rfl

/- A turn, and what happens before it. -/
structure Stage where
  before : Interlude
  turn : Turn

/- What a turn found, and what it came to. -/
structure Visit where
  found : Session
  outcome : Outcome Unit

/- What was added to the standard output. -/
def Visit.stdout (visit : Visit) : Bytes :=
  visit.outcome.session.stdout.since visit.found.stdout

/- What was added to the error stream. -/
def Visit.stderr (visit : Visit) : Bytes :=
  visit.outcome.session.stderr.since visit.found.stderr

/- Run the turn of a stage on what it finds. -/
def Stage.visit
    (stage : Stage)
    (session : Session) : Visit where
  found := stage.before.after session
  outcome := stage.turn.run (stage.before.after session)

/- The visits of stages, one after the other. -/
def visits (session : Session) : List Stage → List Visit
  | [] => []
  | stage :: rest =>
      stage.visit session ::
        visits (stage.visit session).outcome.session rest

/- What the last of the stages leaves. -/
def leftBy (session : Session) : List Stage → Session
  | [] => session
  | stage :: rest =>
      leftBy (stage.visit session).outcome.session rest

/- Where nothing happens between them, stages are turns. -/
theorem visits_of_turns
    (session : Session)
    (turns : List Turn) :
    (visits session (turns.map (Stage.mk .none))).map
          Visit.outcome =
        runTurns session turns ∧
      leftBy session (turns.map (Stage.mk .none)) =
        finalOf session turns := by
  induction turns generalizing session with
  | nil => exact ⟨rfl, rfl⟩
  | cons turn rest ih =>
      rcases ih (turn.run session).session with
        ⟨hRest, hLeft⟩
      rw [runTurns, finalOf, ← hRest, ← hLeft]
      exact ⟨rfl, rfl⟩

/- The turn of a stage does to the streams what it may. -/
def Stage.KeepsDiscipline
    (stage : Stage)
    (visit : Visit) : Prop :=
  Invocation.KeepsDiscipline stage.turn.job.environment
    stage.turn.job.capabilities stage.turn.job.about
    visit.found visit.outcome

theorem Stage.visit_keepsDiscipline
    (stage : Stage)
    (session : Session)
    (hLeave : stage.turn.job.handlers.LeaveOutput) :
    stage.KeepsDiscipline (stage.visit session) :=
  Invocation.run_keepsDiscipline _ _ _ _ _ hLeave

/- Before it nothing is written, and it adds its part. -/
theorem Stage.written_visit
    {stage : Stage}
    {session : Session}
    (hKeeps : stage.KeepsDiscipline (stage.visit session)) :
    (stage.visit session).outcome.session.stdout.written =
        session.stdout.written ++
          (stage.visit session).stdout ∧
      (stage.visit session).outcome.session.stderr.written =
        session.stderr.written ++
          (stage.visit session).stderr := by
  rw [← stage.before.stdout session,
    ← stage.before.stderr session]
  exact ⟨hKeeps.stdout_grows, hKeeps.stderr_grows⟩

/-
  Several invocations keep the discipline, each on what it
  finds, and what the streams hold at last are the parts
  that each of them has added, in order, and nothing else.
-/
theorem visits_keep_discipline
    (session : Session)
    (stages : List Stage)
    (hLeave :
      ∀ stage ∈ stages,
        stage.turn.job.handlers.LeaveOutput) :
    List.Forall₂ Stage.KeepsDiscipline stages
        (visits session stages) ∧
      (leftBy session stages).stdout.written =
        session.stdout.written ++
          (visits session stages).flatMap Visit.stdout ∧
      (leftBy session stages).stderr.written =
        session.stderr.written ++
          (visits session stages).flatMap Visit.stderr := by
  induction stages generalizing session with
  | nil => simp [visits, leftBy]
  | cons stage rest ih =>
      rw [List.forall_mem_cons] at hLeave
      have hKeeps :=
        stage.visit_keepsDiscipline session hLeave.1
      rcases Stage.written_visit hKeeps with
        ⟨hStdout, hStderr⟩
      rcases ih (stage.visit session).outcome.session
          hLeave.2 with
        ⟨hRest, hRestStdout, hRestStderr⟩
      refine ⟨.cons hKeeps hRest, ?_, ?_⟩
      · rw [leftBy, hRestStdout, hStdout, visits,
          List.flatMap_cons, List.append_assoc]
      · rw [leftBy, hRestStderr, hStderr, visits,
          List.flatMap_cons, List.append_assoc]

/- The output accepts everything from now on. -/
def Interlude.repaired : Interlude where
  after session :=
    { session with
      stdout := { written := session.stdout.written } }
  stdout := fun _ => rfl
  stderr := fun _ => rfl

/- A stage of a plugin whose handlers only fail. -/
def failingStage
    (before : Interlude)
    (command about : String) : Stage where
  before := before
  turn :=
    { collaborators := { namespaces := fun _ => .ok false }
      job :=
        { environment :=
            Environment.ofPairs [("CNI_COMMAND", command)]
          handlers :=
            .three (.silent fun _ => .error (.ofText "add"))
              (.silent fun _ => .error (.ofText "check"))
              (.silent fun _ => .error (.ofText "del"))
          capabilities := .all
          about := about } }

/- A report that is cut, one that is whole, and a request. -/
def mixedStages : List Stage :=
  [failingStage .none "VERSION" "",
    failingStage .repaired "VERSION" "",
    failingStage .none "ADD" "", failingStage .none "" "help"]

/- A session whose output breaks at first. -/
def brokenSession : Session :=
  { stdout := breaking [] }

theorem mixed_visits_keep_discipline :
    (∀ stage ∈ mixedStages,
      stage.turn.job.handlers.LeaveOutput) ∧
    List.Forall₂ Stage.KeepsDiscipline mixedStages
        (visits brokenSession mixedStages) ∧
      (leftBy brokenSession mixedStages).stdout.written =
        brokenSession.stdout.written ++
          (visits brokenSession mixedStages).flatMap
            Visit.stdout ∧
      (leftBy brokenSession mixedStages).stderr.written =
        brokenSession.stderr.written ++
          (visits brokenSession mixedStages).flatMap
            Visit.stderr := by
  have hLeave :
      ∀ stage ∈ mixedStages,
        stage.turn.job.handlers.LeaveOutput := by
    intro stage hMem
    simp only [mixedStages, List.mem_cons,
      List.not_mem_nil, or_false] at hMem
    rcases hMem with rfl | rfl | rfl | rfl <;>
      exact Handlers.leaveOutput_three _ _ _
  exact
    ⟨hLeave,
      visits_keep_discipline brokenSession mixedStages
        hLeave⟩

end Series

end NetPlugin
