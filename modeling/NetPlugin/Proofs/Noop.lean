import NetPlugin.Noop
import NetPlugin.Proofs.Identifier
import NetPlugin.Proofs.Json.Members
import NetPlugin.Proofs.Reached

/-
  The plugin that accepts every command, from the launch of
  a process to its exit.

  The configuration is read three times: for its name and
  its version, where a repeated key has its last value, and
  by the handler, which refuses a repeated key.  What the
  exit is like can be told from its members.

  Main declarations:
    * `Noop.Refuses` and `Noop.Fails`
    * `Noop.answer`
    * `Noop.Serves` and `Noop.run_serves`
-/

------------------------------------------------------------
-- What the Handlers Read
------------------------------------------------------------

namespace NetPlugin

open Version

namespace Noop

/- What the one field makes of a value. -/
def store
    (_ : Json.Field Fields)
    (_ : Fields)
    (value : Json.Value) : Option Fields :=
  value.optionalText?.map fun failure =>
    { failure := some failure }

theorem record_follows :
    ∀ field ∈ record.fields,
      ∀ known,
        Json.Follows (field.read known)
          (store field known) := by
  intro field hField known
  cases hField with
  | head =>
      exact Json.readOptionalText_follows.bind_pure _
  | tail _ hOther => cases hOther

/-
  The text with which commands fail, or none, where the
  members of the configuration are not refused.
-/
def failureOf
    (members : Json.Members) : Option (Option String) :=
  match members.valuesOf failureKey with
  | [] => some none
  | [value] => value.optionalText?
  | _ => none

theorem ofMembers_record (members : Json.Members) :
    record.ofMembers store members = failureOf members := by
  have hStored :
      ∀ (field : Json.Field Fields) (value : Json.Value)
        (next : Fields),
        store field {} value = some next →
        next.failure.isSome := by
    intro field value next hStore
    rcases Option.map_eq_some_iff.1 hStore with
      ⟨failure, _, hNext⟩
    rw [← hNext]
    rfl
  unfold Json.Record.ofMembers failureOf
  rw [show record.fields = [_] from rfl,
    Json.gather_of_new rfl (hStored _)]
  show
    Option.bind (match members.valuesOf failureKey with
      | [] => some {}
      | [value] => store _ {} value
      | _ => none) _ = _
  cases members.valuesOf failureKey with
  | nil => rfl
  | cons value others =>
      cases others with
      | nil =>
          unfold store
          simp only
          cases value.optionalText? with
          | none => rfl
          | some failure => rfl
      | cons _ _ => rfl

/- A key that is repeated, or with another kind of value. -/
def Refuses (members : Json.Members) : Prop :=
  2 ≤ (members.valuesOf failureKey).length ∨
    ∃ value ∈ members.valuesOf failureKey,
      value ≠ .null ∧ ∀ text, value ≠ .string text

/- A text that is there once and is not empty. -/
def Fails
    (members : Json.Members)
    (text : String) : Prop :=
  members.valuesOf failureKey = [.string text] ∧ text ≠ ""

theorem failureOf_of_refuses
    {members : Json.Members}
    (hRefuses : Refuses members) :
    failureOf members = none := by
  unfold Refuses at hRefuses
  unfold failureOf
  cases hValues : members.valuesOf failureKey with
  | nil => simp [hValues] at hRefuses
  | cons value others =>
      cases others with
      | cons _ _ => rfl
      | nil =>
          have hOther :
              value ≠ .null ∧ ∀ text, value ≠ .string text := by
            simpa [hValues] using hRefuses
          cases value with
          | null => exact absurd rfl hOther.1
          | string text => exact absurd rfl (hOther.2 text)
          | _ => rfl

theorem failureOf_of_accepted
    {members : Json.Members}
    (hRefuses : ¬ Refuses members)
    (hFails : ∀ text, ¬ Fails members text) :
    failureOf members = some none ∨
      failureOf members = some (some "") := by
  unfold Refuses at hRefuses
  unfold Fails at hFails
  unfold failureOf
  cases hValues : members.valuesOf failureKey with
  | nil => exact Or.inl rfl
  | cons value others =>
      cases others with
      | cons _ _ => simp [hValues] at hRefuses
      | nil =>
          cases value with
          | null => exact Or.inl rfl
          | string text =>
              have hEmpty : text = "" := by
                simpa [hValues] using hFails text
              subst hEmpty
              exact Or.inr rfl
          | _ => simp [hValues] at hRefuses

section Load

variable {config : Bytes} {members : Json.Members}

/- What a handler does first is told by the members. -/
theorem load_of_refuses
    (hValue :
      Json.Value.ofBytes config = .ok (.object members))
    (hRefuses : Refuses members) :
    ∃ reason,
      load config =
        failing "parsing network configuration" reason := by
  have hFinds :=
    Json.Record.readDocument_finds record_follows hValue
  rw [ofMembers_record, failureOf_of_refuses hRefuses]
    at hFinds
  rcases hFinds with ⟨failure, hFailure⟩
  refine ⟨failure.message, ?_⟩
  unfold load failureText
  rw [hFailure]

theorem load_of_fails
    (hValue :
      Json.Value.ofBytes config = .ok (.object members))
    {text : String}
    (hFails : Fails members text) :
    load config = .error (.ofText text) := by
  have hFailure : failureOf members = some (some text) := by
    unfold failureOf
    rw [hFails.1]
    rfl
  have hFinds :=
    Json.Record.readDocument_finds record_follows hValue
  rw [ofMembers_record, hFailure] at hFinds
  unfold load failureText
  rw [hFinds]
  exact if_neg hFails.2

theorem load_of_accepted
    (hValue :
      Json.Value.ofBytes config = .ok (.object members))
    (hRefuses : ¬ Refuses members)
    (hFails : ∀ text, ¬ Fails members text) :
    load config = .ok () := by
  have hFinds :=
    Json.Record.readDocument_finds record_follows hValue
  rw [ofMembers_record] at hFinds
  unfold load failureText
  rcases failureOf_of_accepted hRefuses hFails with
    hNone | hEmpty
  · rw [hNone] at hFinds
    rw [hFinds]
  · rw [hEmpty] at hFinds
    rw [hFinds]
    rfl

end Load

------------------------------------------------------------
-- What the Handlers Answer
------------------------------------------------------------

/- The line of ADD; the other commands print nothing. -/
def answer
    (command : Command)
    (version : Token) : Bytes :=
  if command = .add then
    Utf8.encode
      ("\x7b\"cniVersion\":\"" ++ version.text ++
        "\",\"dns\":\x7b\x7d\x7d\n")
  else []

/- No published version needs an escape. -/
theorem encodeAll_addResult
    {version : Token}
    (hPublished : version ∈ published) :
    Utf8.encodeAll
        ((addResult version).pieces .compact ++ ["\n"]) =
      answer .add version := by
  unfold published at hPublished
  simp only [List.mem_cons, List.not_mem_nil, or_false]
    at hPublished
  rcases hPublished with
    rfl | rfl | rfl | rfl | rfl | rfl | rfl <;>
    decide +kernel

section Handlers

variable {command : Command} {handler : Handler}
variable {args : Args} {stdout : Sink}

/- No handler does anything behind a failure. -/
theorem handler_of_load_error
    (hHandler :
      plugin.handlers.handler? command = some handler)
    {failure : HandlerError}
    (hLoad : load args.config = .error failure) :
    handler args stdout = ⟨.error failure, stdout, []⟩ := by
  cases command with
  | add =>
      cases hHandler
      unfold add
      rw [hLoad]
  | version => cases hHandler
  | _ =>
      cases hHandler
      unfold accept
      simp only [hLoad]

theorem printResult_of_isWritable
    (hWritable : stdout.IsWritable)
    {version : Token}
    (hPublished : version ∈ published) :
    printResult version stdout =
      (.ok (), stdout.keep (answer .add version)) := by
  unfold printResult
  simp only [Sink.printPieces_of_isWritable hWritable,
    encodeAll_addResult hPublished]

theorem handler_of_load_ok
    (hHandler :
      plugin.handlers.handler? command = some handler)
    (hLoad : load args.config = .ok ())
    {version : Token}
    (hVersion :
      NetworkConfig.version args.config = .ok version)
    (hPublished : version ∈ published)
    (hWritable : stdout.IsWritable) :
    (handler args stdout).result = .ok () ∧
      (handler args stdout).stdout =
        stdout.keep (answer command version) := by
  cases command with
  | add =>
      cases hHandler
      have hPrint :=
        printResult_of_isWritable hWritable hPublished
      unfold add
      simp only [hLoad, hVersion, hPrint, and_self]
  | version => cases hHandler
  | _ =>
      cases hHandler
      unfold accept
      simp only [hLoad]
      exact ⟨trivial, stdout.keep_nil.symm⟩

end Handlers

------------------------------------------------------------
-- Exits
------------------------------------------------------------

/- A failure to load is told, and nothing else. -/
theorem run_reports_of_load_error
    {namespaces : NamespaceQuery}
    {launch : Launch}
    {command : Command}
    {args : Args}
    {handler : Handler}
    (hHandler :
      plugin.handlers.handler? command = some handler)
    (hTells :
      Execution.TellsReply namespaces launch plugin command
        args (handler args launch.stdout))
    {failure : HandlerError}
    (hLoad : load args.config = .error failure) :
    (Execution.run namespaces launch plugin).Reports
      launch.stdout.written failure.classify := by
  have hReply :
      handler args launch.stdout =
        ⟨.error failure, launch.stdout, []⟩ :=
    handler_of_load_error hHandler hLoad
  rw [hReply] at hTells
  have hNothing := hTells [] launch.stdout.keep_nil.symm
  rw [List.append_nil] at hNothing
  exact hNothing

/-
  How a process ends in which the handler of a command was
  reached with a configuration of these members.
-/
structure Serves
    (namespaces : NamespaceQuery)
    (launch : Launch)
    (command : Command)
    (args : Args)
    (members : Json.Members) : Prop where
  refused :
    Refuses members →
      ∃ reason,
        (Execution.run namespaces launch plugin).Reports
          launch.stdout.written
          (.internal
            ("parsing network configuration: " ++ reason))
  failed :
    ∀ text,
      Fails members text →
        (Execution.run namespaces launch plugin).Reports
          launch.stdout.written (.internal text)
  /- Otherwise the handler succeeds, and the check decides. -/
  accepted :
    ¬ Refuses members →
    (∀ text, ¬ Fails members text) →
      ∃ version ∈ published,
        NetworkConfig.Declares members version ∧
          (∃ handler,
            plugin.handlers.handler? command =
                some handler ∧
              (handler args launch.stdout).result =
                .ok () ∧
              (handler args launch.stdout).stdout.written =
                launch.stdout.written ++
                  answer command version) ∧
          (Execution.run namespaces launch plugin).Tells
            (launch.stdout.written ++
              answer command version)
            (Invocation.namespaceVerdict
              (Execution.collaborators namespaces) command
              args)
  /- CHECK and GC are behind no check. -/
  unchecked :
    command = .check ∨ command = .gc →
      Invocation.namespaceVerdict
          (Execution.collaborators namespaces) command
          args = .ok ()

/-
  A process that reaches a handler reports the failure that
  its configuration asks for; without one the handler
  answers, and only the check of the namespace may follow.
-/
theorem run_serves
    (namespaces : NamespaceQuery)
    {launch : Launch}
    (hWritable : launch.stdout.IsWritable)
    {command : Command}
    {args : Args}
    (hReached :
      (command, args) ∈
        (Execution.invoke namespaces launch
          plugin).trace.calls) :
    launch.stdin.readToEnd.1 = .ok args.config ∧
      ∃ members,
        Json.Value.ofBytes args.config =
            .ok (.object members) ∧
          Serves namespaces launch command args members := by
  have hCourse :=
    Execution.invoke_course namespaces launch plugin
  rcases hCourse.called_of_mem_calls hReached with
    ⟨inner, hCalled⟩
  rcases NetworkConfig.exists_members_of_check
      hCalled.check with
    ⟨members, hValue⟩
  rcases hCalled.exists_version with
    ⟨version, hVersion, hPublished⟩
  rcases Execution.run_tellsReply hWritable hReached with
    ⟨handler, hHandler, hTells⟩
  refine ⟨hCalled.read, members, hValue, ?_⟩
  constructor
  case refused =>
    intro hRefuses
    rcases load_of_refuses hValue hRefuses with
      ⟨reason, hLoad⟩
    exact
      ⟨reason,
        run_reports_of_load_error hHandler hTells hLoad⟩
  case failed =>
    intro text hFails
    have hLoad := load_of_fails hValue hFails
    exact run_reports_of_load_error hHandler hTells hLoad
  case accepted =>
    intro hRefuses hFails
    have hLoad := load_of_accepted hValue hRefuses hFails
    have hReply :=
      handler_of_load_ok hHandler hLoad hVersion hPublished
        hWritable
    refine
      ⟨version, hPublished,
        NetworkConfig.declares_of_version hValue hVersion,
        ⟨handler, hHandler, hReply.1, ?_⟩, ?_⟩
    · rw [hReply.2]
      rfl
    · have hAfter := hTells _ hReply.2
      unfold Invocation.resultBehind at hAfter
      rw [hReply.1] at hAfter
      exact hAfter
  case unchecked =>
    intro hCommand
    apply Invocation.namespaceVerdict_of_not_enters
    rcases hCommand with rfl | rfl <;> rfl

/- A configuration with a text to fail with. -/
def failingConfig : Bytes :=
  Utf8.encode
    ("\x7b\"cniVersion\":\"1.0.0\",\"name\":\"net\"," ++
      "\"debugFail\":\"no\"\x7d")

/- A launch of CHECK with it. -/
def failingLaunch : Launch where
  environment := fun v =>
    match v with
    | .command => some (Utf8.encode "CHECK")
    | .containerId => some (Utf8.encode "one")
    | .netns => some (Utf8.encode "/run/netns/one")
    | .ifName => some (Utf8.encode "eth0")
    | .path => some (Utf8.encode "/bin")
    | _ => none
  stdin := [.chunk failingConfig]

/- Its handler is reached on an output without faults. -/
theorem run_serves_failingLaunch :
    failingLaunch.stdout.IsWritable ∧
      ∃ args,
        (.check, args) ∈
            (Execution.invoke (.fixed none none)
              failingLaunch plugin).trace.calls ∧
          failingLaunch.stdin.readToEnd.1 =
            .ok args.config ∧
          ∃ members,
            Json.Value.ofBytes args.config =
                .ok (.object members) ∧
              Serves (.fixed none none) failingLaunch .check
                args members := by
  have hWritable : failingLaunch.stdout.IsWritable :=
    ⟨rfl, rfl⟩
  have hReached :
      (.check,
          .ofEnvironment (.ofRaw failingLaunch.environment)
            failingConfig) ∈
        (Execution.invoke (.fixed none none) failingLaunch
          plugin).trace.calls := by
    decide +kernel
  have hServes :=
    run_serves (.fixed none none) hWritable hReached
  exact ⟨hWritable, _, hReached, hServes⟩

end Noop

end NetPlugin
