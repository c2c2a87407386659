import NetPlugin.Execution
import NetPlugin.Proofs.ErrorForm
import NetPlugin.Proofs.Output

/-
  The plain form of a process follows its invocation.

  Main declarations:
    * `Execution.emitted`
    * `Execution.Follows`
    * `Execution.run_follows`
-/

------------------------------------------------------------
-- Reports
------------------------------------------------------------

namespace NetPlugin

namespace Execution

/- An error that can be written leaves nothing to log. -/
theorem report_of_ok
    {e : PluginError}
    {stdout after : Sink}
    (hPrint : e.print stdout = (.ok (), after)) :
    report e stdout = ([], after) := by
  unfold report
  rw [hPrint]

/- That one cannot be written is logged once. -/
theorem report_of_error
    {e : PluginError}
    {stdout after : Sink}
    {failure : IoError}
    (hPrint : e.print stdout = (.error failure, after)) :
    report e stdout =
      ([.errorNotWritten failure.text], after) := by
  unfold report
  rw [hPrint]

/- All events of a process, in order. -/
def emitted (outcome : Outcome Unit) : List Log.Event :=
  outcome.trace.events ++
    match outcome.result with
    | .ok () => []
    | .error e => (report e outcome.session.stdout).1

theorem emitted_of_error
    {outcome : Outcome Unit}
    {e : PluginError}
    (hError : outcome.result = .error e) :
    emitted outcome =
      outcome.trace.events ++
        (report e outcome.session.stdout).1 := by
  unfold emitted
  rw [hError]

theorem lines_append
    (logger : Log.Logger)
    (first second : List Log.Event) :
    logger.lines (first ++ second) =
      logger.lines first ++ logger.lines second := by
  unfold Log.Logger.lines
  cases logger.installed with
  | none => rfl
  | some filter => simp

theorem lineBytes_append (first second : List String) :
    lineBytes (first ++ second) =
      lineBytes first ++ lineBytes second :=
  List.flatMap_append

------------------------------------------------------------
-- Exits
------------------------------------------------------------

theorem plain_of_ok
    (logger : Log.Logger)
    {outcome : Outcome Unit}
    (hFinished : outcome.result = .ok ()) :
    (plain logger outcome).status = 0 ∧
      (plain logger outcome).stdout =
        outcome.session.stdout.written := by
  unfold plain
  rw [hFinished]
  exact ⟨rfl, rfl⟩

/- An error is never lost, whatever becomes of its report. -/
theorem plain_of_error
    (logger : Log.Logger)
    {outcome : Outcome Unit}
    {e : PluginError}
    (hError : outcome.result = .error e) :
    (plain logger outcome).status = 1 ∧
      (plain logger outcome).stdout =
        (report e outcome.session.stdout).2.written := by
  unfold plain
  rw [hError]
  exact ⟨rfl, rfl⟩

/- Where everything can be written, so is the error. -/
theorem plain_stdout_of_isWritable
    (logger : Log.Logger)
    {outcome : Outcome Unit}
    {e : PluginError}
    (hError : outcome.result = .error e)
    (hWritable : outcome.session.stdout.IsWritable) :
    (plain logger outcome).stdout =
      outcome.session.stdout.written ++
        Utf8.encodeAll e.printed := by
  have hPrint :
      e.print outcome.session.stdout =
        (.ok (),
          outcome.session.stdout.keep
            (Utf8.encodeAll e.printed)) :=
    Sink.printPieces_of_isWritable hWritable e.printed
  rw [(plain_of_error logger hError).2, report_of_ok hPrint]
  rfl

/- The events of a failing process are what it logs. -/
theorem stderr_of_error
    (logger : Log.Logger)
    {outcome : Outcome Unit}
    {e : PluginError}
    (hError : outcome.result = .error e)
    (hSilent : outcome.session.stderr.written = []) :
    (plain logger outcome).stderr =
      lineBytes (logger.lines (emitted outcome)) := by
  rw [emitted_of_error hError, lines_append, lineBytes_append]
  unfold plain
  rw [hError, hSilent, List.append_nil]

/- The status tells success from failure. -/
theorem plain_status_eq_zero_iff
    (logger : Log.Logger)
    (outcome : Outcome Unit) :
    (plain logger outcome).status = 0 ↔
      outcome.result = .ok () := by
  cases hResult : outcome.result with
  | ok finished => simp [plain_of_ok logger hResult]
  | error e => simp [plain_of_error logger hResult]

------------------------------------------------------------
-- Processes
------------------------------------------------------------

section Processes

variable (namespaces : NamespaceQuery) (launch : Launch)
variable (plugin : Plugin)

theorem invoke_course :
    Invocation.Course (collaborators namespaces)
      (.ofRaw launch.environment) plugin.handlers
      plugin.capabilities plugin.about (session launch)
      (invoke namespaces launch plugin) :=
  Invocation.run_course _ _ _ _ _ _

/-
  How a process relates to its one invocation, which is the
  same in both forms.
-/
structure Follows : Prop where
  status_eq_zero_iff :
    (run namespaces launch plugin).status = 0 ↔
      (invoke namespaces launch plugin).result = .ok ()
  success :
    (invoke namespaces launch plugin).result = .ok () →
      (run namespaces launch plugin).stdout =
        launch.stdout.written ++
          if Environment.ofRaw launch.environment .command =
              "VERSION" then
            plugin.capabilities.report
          else []
  failure :
    ∀ e,
      (invoke namespaces launch plugin).result = .error e →
        (run namespaces launch plugin).status = 1
  /- Where everything can be written, so is the error. -/
  written :
    ∀ e,
      (invoke namespaces launch plugin).result = .error e →
      launch.stdout.IsWritable →
        (run namespaces launch plugin).stdout =
            launch.stdout.written ++
              Utf8.encodeAll e.printed ∧
          PluginError.ofJson (Utf8.encodeAll e.printed) =
            .ok e
  /- So it is where there is just enough room for it. -/
  printed :
    ∀ e after,
      (invoke namespaces launch plugin).result = .error e →
      Environment.ofRaw launch.environment .command ≠
        "VERSION" →
      e.print launch.stdout = (.ok (), after) →
        (run namespaces launch plugin).stdout =
          launch.stdout.written ++ Utf8.encodeAll e.printed
  /- Where it cannot be written, this is logged once. -/
  notWritten :
    ∀ e failure after,
      (invoke namespaces launch plugin).result = .error e →
      e.print (invoke namespaces launch plugin).session.stdout
          = (.error failure, after) →
        ∃ event,
          emitted (invoke namespaces launch plugin) =
              (invoke namespaces launch plugin).trace.events
                ++ [event] ∧
            event = .errorNotWritten failure.text ∧
            event.entry.level = .error ∧
            event.entry.message =
              "error writing error JSON to stdout"
  /- Nobody else says so, unless a handler does. -/
  notReported :
    (invoke namespaces launch plugin).trace.ReportsUnwritten →
      ∃ command args handler message,
        (command, args) ∈
            (invoke namespaces launch plugin).trace.calls ∧
          plugin.handlers.handler? command = some handler ∧
          .errorNotWritten message ∈
            (handler args launch.stdout).events
  /- The log of a failing process has all its events. -/
  logged :
    ∀ e,
      (invoke namespaces launch plugin).result = .error e →
        (run namespaces launch plugin).stderr =
          lineBytes
            ((logger launch).lines
              (emitted (invoke namespaces launch plugin)))

/-
  A process with handlers that leave the output alone
  succeeds exactly if its invocation does, and otherwise
  reports the error of the invocation.
-/
theorem run_follows
    (hLeave : plugin.handlers.LeaveOutput) :
    Follows namespaces launch plugin := by
  have hCourse := invoke_course namespaces launch plugin
  have hWrites := hCourse.writes hLeave
  constructor
  case status_eq_zero_iff =>
    exact plain_status_eq_zero_iff _ _
  case success =>
    intro hFinished
    have hPlain := plain_of_ok (logger launch) hFinished
    unfold run
    rw [hPlain.2, hWrites.written_of_ok hFinished]
    rfl
  case failure =>
    intro e hError
    exact (plain_of_error _ hError).1
  case written =>
    intro e hError hWritable
    have hStdout := hWrites.stdout_of_error hWritable hError
    refine ⟨?_, e.readsBack.indented⟩
    unfold run
    rw [plain_stdout_of_isWritable _ hError, hStdout]
    · rfl
    · rw [hStdout]
      exact hWritable
  case printed =>
    intro e after hError hOther hPrint
    have hStdout := hWrites.stdout_of_command_ne hOther
    have hPlain := plain_of_error (logger launch) hError
    unfold run
    rw [hPlain.2, hStdout]
    simp only [session, report_of_ok hPrint]
    exact Sink.written_of_printPieces hPrint
  case notWritten =>
    intro e failure after hError hPrint
    refine ⟨_, ?_, rfl, rfl, rfl⟩
    rw [emitted_of_error hError, report_of_error hPrint]
  case notReported => exact hCourse.exists_event
  case logged =>
    intro e hError
    apply stderr_of_error _ hError
    rw [hCourse.stderr_of_error hError]
    rfl

end Processes

/- A plugin whose handlers fail without writing anything. -/
def failingPlugin : Plugin where
  handlers :=
    .three (.silent fun _ => .error (.ofText "add"))
      (.silent fun _ => .error (.ofText "check"))
      (.silent fun _ => .error (.ofText "del"))
  capabilities := .all
  about := "a plugin"

/- A launch of ADD on a device without any room. -/
def fullLaunch : Launch where
  environment := fun v =>
    match v with
    | .command => some (Utf8.encode "ADD")
    | .containerId => some (Utf8.encode "one")
    | .netns => some (Utf8.encode "/run/netns/one")
    | .ifName => some (Utf8.encode "eth0")
    | .path => some (Utf8.encode "/bin")
    | _ => none
  stdin :=
    [.chunk
      (Utf8.encode
        "\x7b\"cniVersion\":\"1.0.0\",\"name\":\"net\"\x7d")]
  stdout := .full

/- What its handler fails with, behind the negotiation. -/
def addFailure : PluginError :=
  { code := .internal, message := "add" }

/- The error of a handler is not lost on a full device. -/
theorem run_fails_on_full_device :
    failingPlugin.handlers.LeaveOutput ∧
      (invoke (.fixed none none) fullLaunch
          failingPlugin).result = .error addFailure ∧
      (run (.fixed none none) fullLaunch
          failingPlugin).status = 1 ∧
      ∃ event,
        emitted
              (invoke (.fixed none none) fullLaunch
                failingPlugin) =
            (invoke (.fixed none none) fullLaunch
                failingPlugin).trace.events ++ [event] ∧
          event.entry.level = .error := by
  have hLeave : failingPlugin.handlers.LeaveOutput :=
    Handlers.leaveOutput_three _ _ _
  have hError :
      (invoke (.fixed none none) fullLaunch
          failingPlugin).result =
        .error addFailure := by
    decide +kernel
  have hFollows :=
    run_follows (.fixed none none) fullLaunch failingPlugin
      hLeave
  have hFull :
      addFailure.print
          (invoke (.fixed none none) fullLaunch
            failingPlugin).session.stdout =
        (.error .deviceFull, .full) := by
    decide +kernel
  rcases hFollows.notWritten addFailure _ _ hError hFull with
    ⟨event, hEmitted, _, hLevel, _⟩
  exact
    ⟨hLeave, hError, hFollows.failure _ hError, event,
      hEmitted, hLevel⟩

end Execution

end NetPlugin
