import NetPlugin.Proofs.Invocation
import NetPlugin.Proofs.Stream.Attempts

/-
  Invocations without a command.

  Where the command is missing nothing else is required, so
  that no identifier and no input can be refused before it
  is missed.  A plugin that has an about text introduces
  itself then, in two lines on the error stream.  Each of
  them is written as far as it goes, and what becomes of
  them does not matter.

  Main declarations:
    * `Request.resolve_of_no_command`
    * `Invocation.Introduces`
    * `Invocation.introduction_introduces`
    * `Invocation.AnswersNoCommand`
    * `Invocation.run_answers_no_command`
-/

------------------------------------------------------------
-- Requests without a Command
------------------------------------------------------------

namespace NetPlugin

namespace Request

/- Only the command is missed, whatever else is set. -/
theorem survey_of_no_command
    {env : Environment}
    (hCommand : env .command = "") :
    env.survey none Variable.all = .ok [.command] := by
  simp [Variable.all, Environment.survey,
    Variable.isRequired, hCommand, Except.map]

/- Nothing is read before that. -/
theorem resolve_of_no_command
    {env : Environment}
    (hCommand : env .command = "")
    (session : Session) :
    resolve env session =
      ⟨.error (Environment.missing [.command]),
        [.logged (.variablesMissing "" [.command])],
        session⟩ := by
  unfold resolve
  rw [hCommand, Command.ofName?_empty]
  simp only [survey_of_no_command hCommand]
  rfl

end Request

------------------------------------------------------------
-- Introductions
------------------------------------------------------------

namespace Invocation

/- The line with the about text. -/
def aboutText (about : String) : Bytes :=
  Utf8.encode (about ++ "\n")

/- The line with the versions, as they are declared. -/
def versionsText (plugin : Capabilities) : Bytes :=
  Utf8.encode
    ("CNI protocol versions supported: " ++
      ", ".intercalate (plugin.supported.map (·.text)) ++
      "\n")

/- Both lines by attempts, whatever the first comes to. -/
def IntroducesBy
    (about : String)
    (plugin : Capabilities)
    (before after : Sink) : Prop :=
  ∃ first middle second,
    before.WritesBy [about, "\n"] (first, middle) ∧
      middle.WritesBy (versionsLine plugin) (second, after)

/-
  What an introduction adds to a stream: both lines, or a
  prefix of each of them.
-/
structure Introduces
    (about : String)
    (plugin : Capabilities)
    (before after : Sink) : Prop where
  accepted :
    before.room = none →
      after.written =
        before.written ++ aboutText about ++
          versionsText plugin
  /- Interruptions are overcome, however many there are. -/
  interrupted :
    (∀ fault ∈ before.faults, fault.isInterruption = true) →
      after.written =
        before.written ++ aboutText about ++
          versionsText plugin
  inPart :
    ∃ first second,
      first <+: aboutText about ∧
        second <+: versionsText plugin ∧
        after.written = before.written ++ first ++ second
  /-
    A stream that fails in the first line takes what the
    faults behind that one admit of the second line.
  -/
  cut :
    ∀ stop,
      before.stop? = some stop →
        after.written =
          before.written ++
            (aboutText about).take stop.fault.room ++
              if stop.fault.room <
                  (aboutText about).length then
                if stop.fault.once = true then
                  Sink.upTo (Sink.stopOf stop.later)
                    (versionsText plugin)
                else []
              else
                (versionsText plugin).take
                  (stop.fault.room -
                    (aboutText about).length)
  /- One that fails but once has the whole second line. -/
  recovered :
    ∀ stop,
      before.stop? = some stop →
      stop.fault.room < (aboutText about).length →
      stop.fault.once = true →
      stop.later = [] →
        after.written =
          before.written ++
            (aboutText about).take stop.fault.room ++
              versionsText plugin
  byAttempts :
    ∀ other,
      IntroducesBy about plugin before other ↔
        other = after

section Lines

variable (about : String) (plugin : Capabilities)
variable (sink : Sink)

theorem encodeAll_aboutLine :
    Utf8.encodeAll [about, "\n"] = aboutText about := by
  simp [aboutText]

theorem encodeAll_versionsLine :
    Utf8.encodeAll (versionsLine plugin) =
      versionsText plugin := by
  simp [versionsLine, versionsText]

theorem introduction_eq :
    introduction about plugin sink =
      ((sink.writePieces [about, "\n"]).2.writePieces
        (versionsLine plugin)).2 := rfl

/- The second line is written behind the first one. -/
theorem introduction_eq_writeAll :
    introduction about plugin sink =
      ((sink.writeAll (aboutText about)).2.writeAll
        (versionsText plugin)).2 := by
  rw [introduction_eq, Sink.writePieces_eq_writeAll,
    Sink.writePieces_eq_writeAll, encodeAll_aboutLine,
    encodeAll_versionsLine]

/- What is kept of the lines, by the faults of each. -/
theorem written_introduction :
    (introduction about plugin sink).written =
      sink.written ++
          Sink.upTo sink.stop? (aboutText about) ++
        Sink.upTo (sink.writeAll (aboutText about)).2.stop?
          (versionsText plugin) := by
  rw [introduction_eq_writeAll, Sink.written_writeAll,
    Sink.written_writeAll]

theorem exists_prefix_of_introduction :
    ∃ first second,
      first <+: aboutText about ∧
        second <+: versionsText plugin ∧
        (introduction about plugin sink).written =
          sink.written ++ first ++ second :=
  ⟨_, _, Sink.upTo_prefix _ _, Sink.upTo_prefix _ _,
    written_introduction about plugin sink⟩

/- A stream on which writing never stops keeps the lines. -/
theorem written_introduction_of_stop?_eq_none
    {sink : Sink}
    (hNone : sink.stop? = none) :
    (introduction about plugin sink).written =
      sink.written ++ aboutText about ++
        versionsText plugin := by
  have hNot : ¬ sink.Refuses (aboutText about) := by
    rintro ⟨stop, hStop, _⟩
    rw [hNone] at hStop
    cases hStop
  rcases Sink.writeAll_of_not_refuses hNot with
    ⟨after, hWrite, _, _, hAfter⟩
  rw [written_introduction, hWrite, hAfter, hNone]
  rfl

/-
  A stream on which writing stops keeps what comes before,
  and it stops in the first line or behind it.
-/
theorem written_introduction_of_stop?
    {sink : Sink}
    {stop : Sink.Stop}
    (hStop : sink.stop? = some stop) :
    (introduction about plugin sink).written =
      sink.written ++
        (aboutText about).take stop.fault.room ++
          if stop.fault.room < (aboutText about).length then
            if stop.fault.once = true then
              Sink.upTo (Sink.stopOf stop.later)
                (versionsText plugin)
            else []
          else
            (versionsText plugin).take
              (stop.fault.room -
                (aboutText about).length) := by
  rw [written_introduction, hStop]
  by_cases hExceeds :
      stop.fault.room < (aboutText about).length
  · have hMiddle :
        (sink.writeAll (aboutText about)).2.stop? =
          Sink.stopOf stop.left := by
      rw [Sink.writeAll_of_stop? hStop hExceeds]
      simp [Sink.stop?]
    rw [hMiddle, if_pos hExceeds]
    cases hOnce : stop.fault.once with
    | true =>
        rw [Sink.Stop.left_of_once hOnce, if_pos rfl]
        rfl
    | false =>
        rw [Sink.stopOf_left_of_not_once hStop hOnce,
          if_neg Bool.false_ne_true]
        simp
  · have hNot : ¬ sink.Refuses (aboutText about) := by
      rintro ⟨other, hOther, hCut⟩
      rw [hStop] at hOther
      cases hOther
      exact hExceeds hCut
    rcases Sink.writeAll_of_not_refuses hNot with
      ⟨after, hWrite, _, _, hAfter⟩
    rw [hWrite, hAfter, hStop, if_neg hExceeds]
    rfl

theorem introducesBy_iff (after : Sink) :
    IntroducesBy about plugin sink after ↔
      after = introduction about plugin sink := by
  constructor
  · rintro ⟨first, middle, second, hFirst, hSecond⟩
    rw [Sink.writesBy_iff] at hFirst
    have hSame : middle = (sink.writePieces [about, "\n"]).2 :=
      congrArg Prod.snd hFirst
    subst hSame
    rw [Sink.writesBy_iff] at hSecond
    rw [introduction_eq, ← hSecond]
  · rintro rfl
    exact
      ⟨_, _, _, Sink.writePieces_writesBy _ _,
        Sink.writePieces_writesBy _ _⟩

end Lines

theorem introduction_introduces
    (about : String)
    (plugin : Capabilities)
    (sink : Sink) :
    Introduces about plugin sink
      (introduction about plugin sink) := by
  constructor
  case accepted =>
    intro hRoom
    apply written_introduction_of_stop?_eq_none
    exact Sink.stop?_of_room_eq_none hRoom
  case interrupted =>
    intro hPatient
    apply written_introduction_of_stop?_eq_none
    exact (Sink.stopOf_eq_none_iff sink.faults).2 hPatient
  case inPart =>
    exact exists_prefix_of_introduction about plugin sink
  case cut =>
    intro stop hStop
    exact written_introduction_of_stop? about plugin hStop
  case recovered =>
    intro stop hStop hExceeds hOnce hNone
    rw [written_introduction_of_stop? about plugin hStop,
      if_pos hExceeds, if_pos hOnce, hNone]
    rfl
  case byAttempts =>
    exact introducesBy_iff about plugin sink

------------------------------------------------------------
-- Invocations without a Command
------------------------------------------------------------

/-
  How an invocation is answered that has no command.  Nobody
  is called or asked for it, and nothing is read.
-/
structure AnswersNoCommand
    (plugin : Capabilities)
    (about : String)
    (session : Session)
    (outcome : Outcome Unit) : Prop where
  succeeded : about ≠ "" → outcome.result = .ok ()
  introduced :
    about ≠ "" →
      Introduces about plugin session.stderr
        outcome.session.stderr
  refused :
    about = "" →
      outcome.result =
        .error
          { code := .invalidEnvironment
            message :=
              "required env variables [CNI_COMMAND] missing"
            details := "" }
  unwritten :
    about = "" → outcome.session.stderr = session.stderr
  silent : outcome.trace.IsSilent
  stdin : outcome.session.stdin = session.stdin
  stdout : outcome.session.stdout = session.stdout
  decodings : outcome.session.decodings = session.decodings

section Run

variable {env : Environment}

/- It depends on the text of a plugin and its versions. -/
theorem run_of_no_command
    (hCommand : env .command = "")
    (c : Collaborators)
    (handlers : Handlers)
    (plugin : Capabilities)
    (about : String)
    (session : Session) :
    run c env handlers plugin about session =
      ((if about = "" then
          Step.fail (Environment.missing [.command])
        else introduce about plugin) session).behind
          [.logged (.variablesMissing "" [.command])] := by
  have hWants :
      wantsIntroduction env about
          (Environment.missing [.command]) = true ↔
        about ≠ "" := by
    rw [wantsIntroduction_iff]
    simp [Environment.missing, hCommand]
  rw [run_of_resolve_error
    (Request.resolve_of_no_command hCommand session)]
  by_cases hAbout : about = ""
  · rw [if_pos hAbout,
      if_neg (fun hTrue => hWants.1 hTrue hAbout)]
  · rw [if_neg hAbout, if_pos (hWants.2 hAbout)]

theorem run_answers_no_command
    (c : Collaborators)
    (env : Environment)
    (handlers : Handlers)
    (plugin : Capabilities)
    (about : String)
    (session : Session)
    (hCommand : env .command = "") :
    AnswersNoCommand plugin about session
      (run c env handlers plugin about session) := by
  rw [run_of_no_command hCommand]
  by_cases hAbout : about = ""
  · rw [if_pos hAbout]
    constructor
    case succeeded => exact fun hSome => absurd hAbout hSome
    case introduced => exact fun hSome => absurd hAbout hSome
    case refused => exact fun _ => rfl
    case unwritten => exact fun _ => rfl
    case silent => exact ⟨rfl, rfl, rfl⟩
    all_goals rfl
  · rw [if_neg hAbout]
    constructor
    case succeeded => exact fun _ => rfl
    case introduced =>
      intro _
      exact introduction_introduces about plugin _
    case refused => exact fun hNone => absurd hNone hAbout
    case unwritten => exact fun hNone => absurd hNone hAbout
    case silent => exact ⟨rfl, rfl, rfl⟩
    all_goals rfl

end Run

/- Variables of which none is the command, and one invalid. -/
def strayEnvironment : Environment :=
  .ofPairs [("CNI_CONTAINERID", "!"), ("CNI_ARGS", "a")]

/- A session whose error stream breaks in both lines. -/
def strayedSession : Session :=
  { stdin := [.chunk [0x7B], .failure ⟨.brokenPipe, none⟩]
    stderr :=
      { room := some 2
        fault := some ⟨.brokenPipe, none⟩
        once := true
        later :=
          [{ room := 4, error := some ⟨.interrupted, none⟩ },
            { room := 8, error := some ⟨.timedOut, none⟩ }]
        flushFault := some ⟨.brokenPipe, none⟩ } }

/- The interruption between them cuts nothing. -/
theorem run_answers_stray :
    strayEnvironment .command = "" ∧
      AnswersNoCommand .legacy "help" strayedSession
          (run { namespaces := fun _ => .ok true }
            strayEnvironment {} .legacy "help"
            strayedSession) ∧
      (introduction "help" .legacy
          strayedSession.stderr).written =
        Utf8.encode "heCNI protocol" := by
  have hCommand : strayEnvironment .command = "" := by
    decide
  exact
    ⟨hCommand,
      run_answers_no_command _ _ _ _ _ _ hCommand,
      by decide +kernel⟩

end Invocation

end NetPlugin
