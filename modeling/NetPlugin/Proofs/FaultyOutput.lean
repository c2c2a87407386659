import NetPlugin.Proofs.Execution
import NetPlugin.Proofs.Stream.Attempts

/-
  What is written to a sink that fails.

  An error and a report of versions are written in many
  small pieces, behind which there is a flush.  A sink that
  fails behind some bytes keeps a prefix of the whole, in
  whatever piece it ends, and nothing more even if it would
  accept more by then.  An interruption is no failure: the
  piece is tried again.

  Main declarations:
    * `Sink.KeepsPrefix` and `printPieces_keepsPrefix`
    * `Sink.GoesOn` and `printPieces_goesOn`
    * `PluginError.output` and `Capabilities.output`
    * `Execution.ReportsPrinting`
    * `Execution.prints_under_faults`
-/

------------------------------------------------------------
-- Sinks That Fail
------------------------------------------------------------

namespace NetPlugin

namespace Sink

section Spec

variable (sink : Sink) (stop : Stop) (output : Bytes)
variable (printed : Except IoError Unit × Sink)

/-
  How printing to a sink ends on which writing stops at a
  fault: it keeps what is accepted before it, and the error
  is that of writing, or else that of flushing.
-/
structure KeepsPrefix : Prop where
  kept :
    printed.2.written =
      sink.written ++
        output.take (min stop.fault.room output.length)
  ok_iff :
    printed.1 = .ok () ↔
      output.length ≤ stop.fault.room ∧
        sink.flushFault = none
  failed :
    stop.fault.room < output.length →
      ∀ e,
        stop.fault.error = some e → printed.1 = .error e
  short :
    stop.fault.room < output.length →
      stop.fault.error = none →
        ∃ e,
          printed.1 = .error e ∧
            e.text = "failed to write whole buffer"
  unflushed :
    output.length ≤ stop.fault.room →
      ∀ e, sink.flushFault = some e → printed.1 = .error e
  /- Nothing more is kept though it would be accepted. -/
  recovered :
    stop.fault.room < output.length →
      stop.fault.once = true →
        printed.2.faults = stop.later
  broken :
    stop.fault.room < output.length →
      stop.fault.once = false →
        printed.2.faults =
          { stop.fault with room := 0 } :: stop.later

/- Everything is kept, and only flushing can fail. -/
structure GoesOn : Prop where
  kept : printed.2.written = sink.written ++ output
  result : printed.1 = sink.flush

end Spec

variable {sink : Sink} {stop : Stop}

/- The pieces that fit are all kept, and then flushed. -/
theorem keepsPrefix_of_fits
    {output : Bytes}
    {printed : Except IoError Unit × Sink}
    (hFits : output.length ≤ stop.fault.room)
    (hGoesOn : sink.GoesOn output printed) :
    sink.KeepsPrefix stop output printed := by
  have hNot := Nat.not_lt.2 hFits
  constructor
  case kept =>
    rw [Nat.min_eq_right hFits, List.take_length]
    exact hGoesOn.kept
  case ok_iff =>
    rw [and_iff_right hFits, hGoesOn.result]
    unfold flush
    cases sink.flushFault <;> simp
  case unflushed =>
    intro _ e hFlush
    rw [hGoesOn.result]
    unfold flush
    rw [hFlush]
  all_goals exact fun hExceeds => absurd hExceeds hNot

/- Those that do not are cut where writing stops. -/
theorem keepsPrefix_of_exceeds
    (hStop : sink.stop? = some stop)
    {output : Bytes}
    (hExceeds : stop.fault.room < output.length) :
    sink.KeepsPrefix stop output
      (.error stop.fault.failure,
        (sink.keep
          (output.take stop.fault.room)).withFaults
            stop.left) := by
  have hNoFit := Nat.not_le.2 hExceeds
  constructor
  case kept =>
    rw [Nat.min_eq_left (Nat.le_of_lt hExceeds)]
    simp
  case ok_iff => simp [hNoFit]
  case failed =>
    intro _ e hError
    simp [Fault.failure, hError]
  case short =>
    intro _ hError
    exact
      ⟨.shortWrite, by simp [Fault.failure, hError], rfl⟩
  case unflushed => exact fun hFits => absurd hFits hNoFit
  case recovered =>
    intro _ hOnce
    rw [faults_withFaults, Stop.left_of_once hOnce]
  case broken =>
    intro _ hLasts
    rw [faults_withFaults, Stop.left_of_not_once hStop hLasts]

theorem printPieces_keepsPrefix
    (hStop : sink.stop? = some stop)
    (pieces : List String) :
    sink.KeepsPrefix stop (Utf8.encodeAll pieces)
      (sink.printPieces pieces) := by
  cases sink.printPieces_printing pieces with
  | whole hNot hResult hWritten =>
      apply keepsPrefix_of_fits _ ⟨hWritten, hResult⟩
      apply Nat.le_of_not_lt
      exact fun hExceeds => hNot ⟨stop, hStop, hExceeds⟩
  | cut other hOther hExceeds hPrinted =>
      rw [hStop] at hOther
      cases hOther
      rw [hPrinted]
      exact keepsPrefix_of_exceeds hStop hExceeds

/- Interruptions are overcome, however many there are. -/
theorem printPieces_goesOn
    (hPatient :
      ∀ fault ∈ sink.faults, fault.isInterruption = true)
    (pieces : List String) :
    sink.GoesOn (Utf8.encodeAll pieces)
      (sink.printPieces pieces) := by
  have hNone : sink.stop? = none :=
    (stopOf_eq_none_iff sink.faults).2 hPatient
  cases sink.printPieces_printing pieces with
  | whole hNot hResult hWritten =>
      exact ⟨hWritten, hResult⟩
  | cut stop hStop _ _ =>
      rw [hNone] at hStop
      cases hStop

end Sink

------------------------------------------------------------
-- Errors and Reports of Versions
------------------------------------------------------------

/- The whole text of an error, as it is kept without limit. -/
def PluginError.output (e : PluginError) : Bytes :=
  (e.print .unlimited).2.written

/- The whole report of the versions of a plugin. -/
def Capabilities.output (plugin : Capabilities) : Bytes :=
  (plugin.encode .unlimited).2.written

theorem Sink.written_printPieces_unlimited
    (pieces : List String) :
    (Sink.unlimited.printPieces pieces).2.written =
      Utf8.encodeAll pieces := by
  rw [printPieces_of_isWritable ⟨rfl, rfl⟩]
  exact List.nil_append _

theorem PluginError.output_eq (e : PluginError) :
    e.output = Utf8.encodeAll e.printed :=
  Sink.written_printPieces_unlimited e.printed

theorem Capabilities.output_eq (plugin : Capabilities) :
    plugin.output = Utf8.encodeAll plugin.printed :=
  Sink.written_printPieces_unlimited plugin.printed

namespace Execution

/-
  Reporting an error keeps what printing it keeps, and only
  a failure to print it is told, with its own text.
-/
structure ReportsPrinting
    (e : PluginError)
    (stdout : Sink) : Prop where
  kept : (report e stdout).2 = (e.print stdout).2
  silent :
    (e.print stdout).1 = .ok () → (report e stdout).1 = []
  told :
    ∀ failure,
      (e.print stdout).1 = .error failure →
        (report e stdout).1.map Log.Event.entry =
          [ { origin := .skeleton
              level := .error
              message := "error writing error JSON to stdout"
              fields :=
                [ { name := "error"
                    value := failure.text } ] } ]

theorem report_reportsPrinting
    (e : PluginError)
    (stdout : Sink) :
    ReportsPrinting e stdout := by
  cases hPrint : e.print stdout with
  | mk result after =>
      cases result with
      | ok printed =>
          have hReport := report_of_ok hPrint
          constructor
          · rw [hReport, hPrint]
          · intro _
            rw [hReport]
          · intro failure hFailure
            rw [hPrint] at hFailure
            cases hFailure
      | error other =>
          have hReport := report_of_error hPrint
          constructor
          · rw [hReport, hPrint]
          · intro hPrinted
            rw [hPrint] at hPrinted
            cases hPrinted
          · intro failure hFailure
            rw [hPrint] at hFailure
            cases hFailure
            rw [hReport]
            rfl

/-
  A sink with a fault behind some bytes keeps a prefix of
  every error and of every report of versions, and printing
  ends as it should.  Interruptions before the fault do not
  matter; where there is nothing else, however often it is
  interrupted, a sink keeps all of them.
-/
theorem prints_under_faults
    (sink : Sink)
    (interruptions : List Sink.Fault)
    (fault : Sink.Fault)
    (later : List Sink.Fault)
    (hFaults : sink.faults = interruptions ++ fault :: later)
    (hInterruptions :
      ∀ other ∈ interruptions, other.isInterruption = true)
    (hFault : fault.isInterruption = false) :
    (∀ e : PluginError,
      (∀ printed,
        sink.PrintsBy e.printed printed ↔
          printed = e.print sink) ∧
        sink.KeepsPrefix (.behind interruptions fault later)
          e.output (e.print sink) ∧
        ReportsPrinting e sink) ∧
    (∀ plugin : Capabilities,
      (∀ printed,
        sink.PrintsBy plugin.printed printed ↔
          printed = plugin.encode sink) ∧
        sink.KeepsPrefix (.behind interruptions fault later)
          plugin.output (plugin.encode sink)) ∧
    ∀ patient : Sink,
      (∀ fault ∈ patient.faults,
        fault.isInterruption = true) →
        (∀ e : PluginError,
          patient.GoesOn e.output (e.print patient)) ∧
        ∀ plugin : Capabilities,
          patient.GoesOn plugin.output
            (plugin.encode patient) := by
  have hStop :
      sink.stop? =
        some (.behind interruptions fault later) := by
    rw [Sink.stop?, hFaults]
    exact Sink.stopOf_append hInterruptions hFault later
  have hPrefix := Sink.printPieces_keepsPrefix hStop
  refine ⟨?_, ?_, ?_⟩
  · intro e
    rw [e.output_eq]
    exact
      ⟨sink.printsBy_iff e.printed, hPrefix e.printed,
        report_reportsPrinting e sink⟩
  · intro plugin
    rw [plugin.output_eq]
    exact
      ⟨sink.printsBy_iff plugin.printed,
        hPrefix plugin.printed⟩
  · intro patient hPatient
    constructor
    · intro e
      rw [e.output_eq]
      exact Sink.printPieces_goesOn hPatient e.printed
    · intro plugin
      rw [plugin.output_eq]
      exact Sink.printPieces_goesOn hPatient plugin.printed

/- An error that is short enough to be looked at. -/
def terseError : PluginError :=
  { code := .invalidNetworkConfig, message := "m" }

/- An interruption behind one byte. -/
def hesitation : Sink.Fault :=
  { room := 1, error := some ⟨.interrupted, none⟩ }

/- A break behind two more bytes, but only once. -/
def breakage : Sink.Fault :=
  { room := 2
    error := some ⟨.brokenPipe, none⟩
    once := true }

/- A sink with both of these faults. -/
def brokenOnce : Sink :=
  { room := some hesitation.room
    fault := hesitation.error
    later := [breakage] }

/- It keeps three bytes, though it would take more. -/
theorem prints_to_brokenOnce :
    brokenOnce.KeepsPrefix (.behind [hesitation] breakage [])
        terseError.output (terseError.print brokenOnce) ∧
      (terseError.print brokenOnce).2.written =
        [0x7B, 0x0A, 0x20] := by
  have hPrints :=
    (prints_under_faults brokenOnce [hesitation] breakage []
      rfl (by decide) (by decide)).1 terseError
  refine ⟨hPrints.2.1, ?_⟩
  rw [hPrints.2.1.kept]
  decide +kernel

/- An interruption behind five bytes. -/
def interruption : Sink.Fault :=
  { room := 5
    error := some ⟨.interrupted, some "again"⟩
    once := true }

/- A sink with this fault only. -/
def interruptedOnce : Sink :=
  { room := some interruption.room
    fault := interruption.error
    once := true }

/- It keeps more than five bytes, and reports no failure. -/
theorem interruptedOnce_not_keepsPrefix :
    interruptedOnce.faults = [interruption] ∧
      ¬ interruptedOnce.KeepsPrefix
          (.behind [] interruption []) terseError.output
          (terseError.print interruptedOnce) := by
  refine ⟨rfl, ?_⟩
  intro hKeeps
  have hPrinted :
      (terseError.print interruptedOnce).1 = .ok () := by
    decide +kernel
  have hFits := (hKeeps.ok_iff.1 hPrinted).1
  revert hFits
  decide +kernel

end Execution

end NetPlugin
