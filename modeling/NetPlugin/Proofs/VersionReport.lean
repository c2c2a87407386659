import NetPlugin.Proofs.InputUse
import NetPlugin.Proofs.ReportForm

/-
  What the VERSION command depends on.

  It only writes the report of the plugin: it reads nothing,
  calls nobody and asks nobody.  So two invocations whose
  plugins report the same, on outputs that behave alike,
  come to the same result and add the same bytes, whatever
  else they were given.

  Main declarations:
    * `Invocation.run_of_version`
    * `Invocation.OnlyReports` and `run_onlyReports`
    * `Series.Turn.ReportsAlike` and `Turn.reports_alike`
-/

------------------------------------------------------------
-- Reports
------------------------------------------------------------

namespace NetPlugin

namespace Environment

/- VERSION needs no variable but the command. -/
theorem isAccepted_of_version
    {env : Environment}
    (hCommand : env .command = "VERSION") :
    env.IsAccepted := by
  have hNamed : env.command? = some .version :=
    (Command.ofName?_eq_some_iff _ _).2 hCommand
  intro v hRequired
  rw [hNamed] at hRequired
  cases v with
  | command =>
      rw [hCommand]
      exact ⟨by decide, rfl⟩
  | _ => cases hRequired

end Environment

namespace Invocation

section Reports

variable (c : Collaborators) {env : Environment}
variable (handlers : Handlers) (plugin : Capabilities)
variable (about : String) (session : Session)

/- What the VERSION command leaves in the trace. -/
def reportTrace (env : Environment) : Trace :=
  [.logged
    (.dispatching .version (env .containerId)
      (env .ifName))]

/- The VERSION command prints the report, and that is all. -/
theorem run_of_version
    (hCommand : env .command = "VERSION") :
    run c env handlers plugin about session =
      (Step.print plugin.printed session).behind
        (reportTrace env) :=
  run_eq_of_report
    (Environment.isAccepted_of_version hCommand) hCommand

/-
  What there is to say of an invocation that only reports:
  nobody was called or asked, nothing was read, and what
  the output keeps of the report decides the result.
-/
structure OnlyReports
    (plugin : Capabilities)
    (session : Session)
    (outcome : Outcome Unit) : Prop where
  calls : outcome.trace.calls = []
  queries : outcome.trace.queries = []
  reconciliations : outcome.trace.reconciliations = []
  undecoded : ∀ config, .decoded config ∉ outcome.trace
  decodings :
    outcome.session.decodings = session.decodings
  stdin : outcome.session.stdin = session.stdin
  stderr : outcome.session.stderr = session.stderr
  whole :
    ¬ session.stdout.Refuses plugin.report →
      outcome.session.stdout.written =
        session.stdout.written ++ plugin.report
  cut :
    ∀ stop,
      session.stdout.stop? = some stop →
      stop.fault.room < plugin.report.length →
        outcome.session.stdout.written =
          session.stdout.written ++
            plugin.report.take stop.fault.room
  accepted :
    session.stdout.IsWritable → outcome.result = .ok ()
  finished :
    outcome.result = .ok () ↔
      ¬ session.stdout.Refuses plugin.report ∧
        session.stdout.flushFault = none
  refused :
    ∀ stop,
      session.stdout.stop? = some stop →
      stop.fault.room < plugin.report.length →
        outcome.result =
          .error
            { code := .ioFailure
              message := stop.fault.failure.text
              details := "" }
  unflushed :
    ¬ session.stdout.Refuses plugin.report →
      ∀ failure,
        session.stdout.flushFault = some failure →
          outcome.result =
            .error
              { code := .ioFailure
                message := failure.text
                details := "" }

variable {handlers plugin about session}
variable {outcome : Outcome Unit}

/-
  The facts about the output, by the way in which printing
  ends.
-/
theorem onlyReports_of_printing
    {printed : Except IoError Unit × Sink}
    (hPrinting :
      Sink.Printing session.stdout plugin.report printed)
    (hOutcome :
      outcome =
        ⟨printed.1.mapError Step.unwritableOutput,
          reportTrace env,
          { session with stdout := printed.2 }⟩) :
    OnlyReports plugin session outcome := by
  subst hOutcome
  cases hPrinting with
  | whole hNot hResult hWritten =>
      constructor
      case cut =>
        exact fun stop hStop hExceeds =>
          absurd ⟨stop, hStop, hExceeds⟩ hNot
      case refused =>
        exact fun stop hStop hExceeds =>
          absurd ⟨stop, hStop, hExceeds⟩ hNot
      case accepted =>
        intro hWritable
        simp [hResult, Sink.flush, hWritable.flush,
          Except.mapError]
      case finished =>
        cases hFault : session.stdout.flushFault <;>
          simp [hResult, hNot, hFault, Sink.flush,
            Except.mapError]
      case unflushed =>
        intro _ failure hFault
        simp [hResult, hFault, Sink.flush, Except.mapError,
          Step.unwritableOutput]
      all_goals simp [reportTrace, hNot, hWritten]
  | cut stop hStop hExceeds hPrinted =>
      have hRefuses : session.stdout.Refuses plugin.report :=
        ⟨stop, hStop, hExceeds⟩
      have hNotWritable : ¬ session.stdout.IsWritable := by
        intro hWritable
        rw [Sink.stop?_of_room_eq_none hWritable.room]
          at hStop
        cases hStop
      constructor <;>
        simp [reportTrace, hPrinted, hRefuses, hStop,
          hNotWritable, Except.mapError,
          Step.unwritableOutput]

variable (handlers plugin about session)

/- Whatever it is given, VERSION does nothing but report. -/
theorem run_onlyReports
    (hCommand : env .command = "VERSION") :
    OnlyReports plugin session
      (run c env handlers plugin about session) := by
  apply
    onlyReports_of_printing
      (plugin.encode_printing session.stdout)
  rw [run_of_version c handlers plugin about session
    hCommand]
  rfl

end Reports

end Invocation

------------------------------------------------------------
-- Two Invocations
------------------------------------------------------------

namespace Series

/-
  Two turns that report alike: neither does anything else,
  and they come to the same result and the same bytes.
-/
structure Turn.ReportsAlike
    (one two : Turn)
    (session other : Session) : Prop where
  left :
    Invocation.OnlyReports one.job.capabilities session
      (one.run session)
  right :
    Invocation.OnlyReports two.job.capabilities other
      (two.run other)
  result :
    (one.run session).result = (two.run other).result
  written :
    ∃ added,
      (one.run session).session.stdout.written =
          session.stdout.written ++ added ∧
        (two.run other).session.stdout.written =
          other.stdout.written ++ added

/-
  Whatever else two turns with the command VERSION are
  given, they report alike if they have the same plugin and
  their outputs behave alike.
-/
theorem Turn.reports_alike
    (one two : Turn)
    (session other : Session)
    (hOne : one.job.environment .command = "VERSION")
    (hTwo : two.job.environment .command = "VERSION")
    (hPlugin : one.job.capabilities = two.job.capabilities)
    (hAlike : session.stdout.Alike other.stdout) :
    one.ReportsAlike two session other := by
  have hRunOne :=
    Invocation.run_of_version one.collaborators
      one.job.handlers one.job.capabilities one.job.about
      session hOne
  have hRunTwo :=
    Invocation.run_of_version two.collaborators
      two.job.handlers two.job.capabilities two.job.about
      other hTwo
  have hPrintTwo :
      Sink.Printing other.stdout one.job.capabilities.report
        (two.job.capabilities.encode other.stdout) := by
    rw [hPlugin]
    exact two.job.capabilities.encode_printing other.stdout
  have hPrinting :=
    hAlike.printing
      (one.job.capabilities.encode_printing session.stdout)
      hPrintTwo
  constructor
  case left =>
    exact
      Invocation.run_onlyReports one.collaborators
        one.job.handlers one.job.capabilities one.job.about
        session hOne
  case right =>
    exact
      Invocation.run_onlyReports two.collaborators
        two.job.handlers two.job.capabilities two.job.about
        other hTwo
  case result =>
    unfold Turn.run Job.run
    rw [hRunOne, hRunTwo]
    exact
      congrArg (Except.mapError Step.unwritableOutput)
        hPrinting.1
  case written =>
    unfold Turn.run Job.run
    rw [hRunOne, hRunTwo]
    exact hPrinting.2

/- An output that breaks behind three bytes. -/
def breaking (written : Bytes) : Sink :=
  { written, room := some 3
    fault := some ⟨.brokenPipe, none⟩ }

/- A turn with variables that no other command accepts. -/
def strangeTurn : Turn where
  collaborators :=
    { decode := fun _ _ => .ok ⟨"0"⟩
      namespaces := fun _ => .ok true }
  job :=
    { environment :=
        Environment.ofPairs
          [("CNI_COMMAND", "VERSION"),
            ("CNI_CONTAINERID", "#"), ("CNI_IFNAME", "/")]
      handlers :=
        .three (.silent fun _ => .ok ())
          (.silent fun _ => .ok ())
          (.silent fun _ => .ok ())
      capabilities := .all
      about := "a plugin" }

/- A turn with nothing else. -/
def bareTurn : Turn where
  collaborators := { namespaces := fun _ => .ok false }
  job :=
    { environment :=
        Environment.ofPairs [("CNI_COMMAND", "VERSION")]
      handlers := {}
      capabilities := .all
      about := "" }

/-
  Neither the variables nor an input that fails at once
  make a difference.
-/
theorem strange_reports_like_bare :
    strangeTurn.ReportsAlike bareTurn
      { stdin := [.failure ⟨.timedOut, none⟩]
        stdout := breaking [] }
      { stdin := [.chunk [0]], stdout := breaking [1, 2] } :=
  Turn.reports_alike strangeTurn bareTurn _ _
    (by decide) (by decide) rfl ⟨rfl, rfl⟩

end Series

end NetPlugin
