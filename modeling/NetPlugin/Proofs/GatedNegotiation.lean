import NetPlugin.Execution
import NetPlugin.Proofs.Invocation

/-
  The commands that exist from a floor on, in closed form.

  With versions read from configurations and accepted as
  they are listed, the first decisive entry of the list
  decides.  A version is itself at least as new as it is,
  so that where all entries have numbers, what is left is
  membership, and the order of the list does not matter.

  Main declarations:
    * `Invocation.exhaustion`, `Invocation.unscannable` and
      `Invocation.unlisted`
    * `Invocation.gated` and `perform_eq_gated`
    * `Invocation.Reaches` and `gated_reaches_iff`
    * `Invocation.DiffersInOrder`
    * `Invocation.perform_decided_by_first_decisive`
-/

------------------------------------------------------------
-- Agreement as Membership
------------------------------------------------------------

namespace NetPlugin

open Version

namespace Negotiation

variable {namespaces : NamespaceQuery}
variable {plugin : Capabilities} {config : Bytes}
variable {version : Token} {session : Session}

/- Reading a version does not depend on earlier readings. -/
theorem decode_eq_version
    (hVersion : NetworkConfig.version config = .ok version) :
    decode (Execution.collaborators namespaces) config
        session =
      ⟨.ok version, [.decoded config],
        session.countDecoding⟩ :=
  decode_eq_ok hVersion

/- A version is accepted where it is listed. -/
theorem agree_eq_of_mem
    (hVersion : NetworkConfig.version config = .ok version)
    (hMem : version ∈ plugin.supported) :
    agree (Execution.collaborators namespaces) plugin config
        session =
      ⟨.ok (), [.decoded config, .reconciled version],
        session.countDecoding⟩ := by
  have hReconcile :
      (Execution.collaborators namespaces).reconcile version
          plugin =
        .ok () :=
    (reconcileWith_eq_ok_iff _ _).2 hMem
  unfold agree
  rw [Step.bind_eq_behind (decode_eq_version hVersion),
    Step.bind_observe, hReconcile]
  rfl

/- It is refused where it is not. -/
theorem agree_eq_of_not_mem
    (hVersion : NetworkConfig.version config = .ok version)
    (hNot : version ∉ plugin.supported) :
    agree (Execution.collaborators namespaces) plugin config
        session =
      ⟨.error (notReconciled ⟨version, plugin.supported⟩),
        [.decoded config, .reconciled version,
          .logged (.versionRefused version)],
        session.countDecoding⟩ := by
  have hReconcile :
      (Execution.collaborators namespaces).reconcile version
          plugin =
        .error ⟨version, plugin.supported⟩ :=
    if_neg hNot
  unfold agree
  rw [Step.bind_eq_behind (decode_eq_version hVersion),
    Step.bind_observe, hReconcile]
  rfl

end Negotiation

------------------------------------------------------------
-- The Closed Form
------------------------------------------------------------

namespace Invocation

open Negotiation

/- No entry of the list is as new as the configuration. -/
def exhaustion (command : Command) : PluginError :=
  { code := .incompatibleVersion
    message :=
      "plugin version does not allow " ++ command.name
    details := "" }

/- An entry of the list has no numbers. -/
def unscannable (e : VersionError) : PluginError :=
  { code := .decodingFailure
    message := e.message
    details := "" }

/- The version is not listed as it is written. -/
def unlisted
    (version : Token)
    (plugin : Capabilities) : PluginError :=
  { code := .incompatibleVersion
    message := "incompatible CNI versions"
    details :=
      "config is " ++ Text.quote version.text ++
        ", plugin supports [" ++
        " ".intercalate
          (plugin.supported.map fun token =>
            Text.quote token.text) ++
        "]" }

section ClosedForm

variable (handlers : Handlers) (plugin : Capabilities)
variable (command : Command) (args : Args)
variable (version : Token) (session : Session)

/- What is traced up to the acceptance of a version. -/
def selectionTrace (candidate : Token) : Trace :=
  [.decoded args.config,
    .logged (.versionSelected version candidate command),
    .decoded args.config, .reconciled version]

/-
  A command above its floor.  The first decisive entry of
  the list decides whether there is a failure at once; if
  not, it depends on membership whether the handler is
  called.
-/
def gated : Outcome Unit :=
  match decisive? version plugin.supported with
  | none =>
      ⟨.error (exhaustion command),
        [.decoded args.config], session.countDecoding⟩
  | some candidate =>
      match candidate.triple with
      | .error e =>
          ⟨.error (unscannable e), [.decoded args.config],
            session.countDecoding⟩
      | .ok _ =>
          if version ∈ plugin.supported then
            (callIfSet handlers command args
              session.countDecoding.countDecoding).behind
                (selectionTrace command args version
                  candidate)
          else
            ⟨.error (unlisted version plugin),
              selectionTrace command args version
                  candidate ++
                [.logged (.versionRefused version)],
              session.countDecoding.countDecoding⟩

variable {namespaces : NamespaceQuery}
variable {handlers plugin command args version session}

/- A command with a floor works on no namespace. -/
theorem entersNamespace_of_floor?
    {floor : Token}
    (hFloor : floor? command = some floor) :
    entersNamespace command = false := by
  cases command with
  | check => rfl
  | gc => rfl
  | _ => cases hFloor

/- Such a command ends with its handler. -/
theorem perform_eq_bind
    {floor : Token}
    (hFloor : floor? command = some floor)
    (c : Collaborators) :
    perform c handlers plugin command args =
      (negotiate c plugin command args.config >>= fun _ =>
        callIfSet handlers command args) := by
  have hEnters := entersNamespace_of_floor? hFloor
  unfold perform
  rw [hEnters]
  simp only [Bool.false_eq_true, if_false,
    Step.bind_pure_unit]

variable (namespaces plugin session)

/- Above the floor an entry is selected, and then agreed. -/
theorem negotiate_of_isAtLeast
    {floor : Token}
    (hFloor : floor? command = some floor)
    (hVersion :
      NetworkConfig.version args.config = .ok version)
    (hAtLeast : version.IsAtLeast floor) :
    negotiate (Execution.collaborators namespaces) plugin
        command args.config session =
      ((Step.ofResult (select command plugin version) >>=
        fun candidate =>
          Step.log
            (.versionSelected version candidate command) >>=
        fun _ =>
          agree (Execution.collaborators namespaces) plugin
            args.config)
          session.countDecoding).behind
            [.decoded args.config] := by
  have hRequire :=
    (requireFloor_eq_ok_iff command floor version).2
      hAtLeast
  have hDecode :
      (Execution.collaborators namespaces).decode
          session.decodings args.config =
        .ok version :=
    hVersion
  unfold negotiate
  rw [hFloor]
  exact
    (agreeAbove_of_decode plugin hDecode).trans
      (congrArg _ (Step.bind_ofResult_ok hRequire _ _))

variable (handlers)

/- A command above its floor has the closed form. -/
theorem perform_eq_gated
    {floor : Token}
    (hFloor : floor? command = some floor)
    (hVersion :
      NetworkConfig.version args.config = .ok version)
    (hAtLeast : version.IsAtLeast floor) :
    perform (Execution.collaborators namespaces) handlers
        plugin command args session =
      gated handlers plugin command args version
        session := by
  have hNegotiate :=
    negotiate_of_isAtLeast plugin session namespaces hFloor
      hVersion hAtLeast
  have hSelect :=
    select_eq hAtLeast.isNumbered command plugin
  rw [perform_eq_bind hFloor]
  unfold gated
  cases hDecisive :
      decisive? version plugin.supported with
  | none =>
      rw [hDecisive] at hSelect
      rw [Step.bind_ofResult_error hSelect] at hNegotiate
      exact Step.bind_eq_error hNegotiate _
  | some candidate =>
      rw [hDecisive] at hSelect
      cases hCandidate : candidate.triple with
      | error e =>
          simp only [hCandidate] at hSelect
          rw [Step.bind_ofResult_error hSelect] at hNegotiate
          simp only [hCandidate]
          exact Step.bind_eq_error hNegotiate _
      | ok a =>
          simp only [hCandidate] at hSelect
          rw [Step.bind_ofResult_ok hSelect, Step.bind_log]
            at hNegotiate
          simp only [hCandidate]
          by_cases hMem : version ∈ plugin.supported
          · rw [if_pos hMem]
            rw [agree_eq_of_mem hVersion hMem] at hNegotiate
            exact Step.bind_eq_behind hNegotiate _
          · rw [if_neg hMem]
            rw [agree_eq_of_not_mem hVersion hMem]
              at hNegotiate
            exact Step.bind_eq_error hNegotiate _

end ClosedForm

------------------------------------------------------------
-- Reaching the Handler
------------------------------------------------------------

section Reaching

variable (handlers : Handlers) (plugin : Capabilities)
variable (command : Command) (args : Args)
variable (version : Token) (session : Session)

/-
  What is left to do is what the handler does, on the
  output as it was found.
-/
def Reaches (outcome : Outcome Unit) : Prop :=
  ∃ earlier before,
    before.stdout = session.stdout ∧
      outcome =
        (callIfSet handlers command args before).behind
          earlier

variable {handlers plugin command args version session}

/- A failure without any call is none of the handler. -/
theorem not_reaches_of_error
    {e : PluginError}
    {trace : Trace}
    {after : Session}
    (hCalls : trace.calls = []) :
    ¬ Reaches handlers command args session
        ⟨.error e, trace, after⟩ := by
  rintro ⟨earlier, before, _, hOutcome⟩
  have hHandled :=
    callIfSet_handled handlers command args before
  have hCalled := hHandled.leaves.calls
  generalize
    callIfSet handlers command args before = handled
      at hOutcome hHandled hCalled
  rcases Outcome.mk.inj hOutcome with ⟨hResult, hTrace, _⟩
  rw [hTrace, Trace.calls_append,
    List.append_eq_nil_iff] at hCalls
  rw [hCalls.2] at hCalled
  -- A handler that is set would have been called.
  cases hHandled with
  | unset hHandler hUnset =>
      rw [hUnset] at hResult
      cases hResult
  | finished handler hHandler _ _ =>
      simp [hHandler] at hCalled
  | failed handler failure hHandler _ _ =>
      simp [hHandler] at hCalled

/- A listed version reaches the handler. -/
theorem gated_eq_of_mem
    {candidate : Token}
    {a : Triple}
    (hDecisive :
      decisive? version plugin.supported = some candidate)
    (hTriple : candidate.triple = .ok a)
    (hMem : version ∈ plugin.supported) :
    gated handlers plugin command args version session =
      (callIfSet handlers command args
        session.countDecoding.countDecoding).behind
          (selectionTrace command args version
            candidate) := by
  simp only [gated, hDecisive, hTriple, hMem, if_true]

/- A version that is not listed fails in one of two ways. -/
theorem gated_eq_of_not_mem
    {candidate : Token}
    {a : Triple}
    (hDecisive :
      decisive? version plugin.supported = some candidate)
    (hTriple : candidate.triple = .ok a)
    (hNot : version ∉ plugin.supported) :
    gated handlers plugin command args version session =
      ⟨.error (unlisted version plugin),
        selectionTrace command args version candidate ++
          [.logged (.versionRefused version)],
        session.countDecoding.countDecoding⟩ := by
  simp only [gated, hDecisive, hTriple, hNot, if_false]

/- An entry without numbers wins over all behind it. -/
theorem gated_eq_of_unnumbered
    {candidate : Token}
    {e : VersionError}
    (hDecisive :
      decisive? version plugin.supported = some candidate)
    (hTriple : candidate.triple = .error e) :
    gated handlers plugin command args version session =
      ⟨.error (unscannable e), [.decoded args.config],
        session.countDecoding⟩ := by
  simp only [gated, hDecisive, hTriple]

theorem gated_eq_of_exhausted
    (hDecisive :
      decisive? version plugin.supported = none) :
    gated handlers plugin command args version session =
      ⟨.error (exhaustion command),
        [.decoded args.config], session.countDecoding⟩ := by
  simp only [gated, hDecisive]

/-
  The handler is reached where the first decisive entry has
  numbers, and only by a version that is listed.
-/
theorem gated_reaches_iff :
    Reaches handlers command args session
        (gated handlers plugin command args version
          session) ↔
      (∃ candidate,
        decisive? version plugin.supported =
            some candidate ∧
          candidate.IsNumbered) ∧
      version ∈ plugin.supported := by
  constructor
  · intro hReaches
    cases hDecisive :
        decisive? version plugin.supported with
    | none =>
        rw [gated_eq_of_exhausted hDecisive] at hReaches
        exact absurd hReaches (not_reaches_of_error (by simp))
    | some candidate =>
        cases hTriple : candidate.triple with
        | error e =>
            rw [gated_eq_of_unnumbered hDecisive hTriple]
              at hReaches
            exact
              absurd hReaches
                (not_reaches_of_error (by simp))
        | ok a =>
            by_cases hMem : version ∈ plugin.supported
            · exact ⟨⟨candidate, rfl, a, hTriple⟩, hMem⟩
            · rw [gated_eq_of_not_mem hDecisive hTriple hMem]
                at hReaches
              exact
                absurd hReaches
                  (not_reaches_of_error
                    (by simp [selectionTrace]))
  · rintro ⟨⟨candidate, hDecisive, a, hTriple⟩, hMem⟩
    exact
      ⟨_, session.countDecoding.countDecoding, rfl,
        gated_eq_of_mem hDecisive hTriple hMem⟩

/-
  Where all entries have numbers, the scan is redundant:
  the version is at least itself.
-/
theorem gated_reaches_iff_mem
    (hVersion : version.IsNumbered)
    (hNumbered :
      ∀ entry ∈ plugin.supported, entry.IsNumbered) :
    Reaches handlers command args session
        (gated handlers plugin command args version
          session) ↔
      version ∈ plugin.supported := by
  rw [gated_reaches_iff]
  constructor
  · exact And.right
  · intro hMem
    refine ⟨?_, hMem⟩
    cases hDecisive :
        decisive? version plugin.supported with
    | none =>
        -- A version cannot be below itself.
        have hBelow :=
          (decisive?_eq_none_iff hVersion).1 hDecisive
            version hMem
        exact
          absurd hVersion.isAtLeast_self
            hBelow.not_isAtLeast
    | some candidate =>
        exact
          ⟨candidate, rfl,
            hNumbered candidate
              (List.mem_of_find?_eq_some hDecisive)⟩

end Reaching

------------------------------------------------------------
-- Other Orders
------------------------------------------------------------

section Orders

variable {handlers : Handlers}
variable {plugin other : Capabilities}
variable {command : Command} {args : Args}
variable {version : Token} {session : Session}

/- An observation but for the version that was selected. -/
def withoutSelected : Observation → Observation
  | .logged (.versionSelected config _ command) =>
      .logged (.versionSelected config ⟨""⟩ command)
  | observation => observation

/-
  Two outcomes that differ in the order of the versions and
  in the selected one: their errors have the same code and
  message, and different details only where these list the
  versions.
-/
structure DiffersInOrder
    (version : Token)
    (plugin other : Capabilities)
    (one two : Outcome Unit) : Prop where
  report :
    one.result.mapError (·.withDetails "") =
      two.result.mapError (·.withDetails "")
  details :
    one.result = two.result ∨
      one.result = .error (unlisted version plugin) ∧
        two.result = .error (unlisted version other)
  trace :
    one.trace.map withoutSelected =
      two.trace.map withoutSelected
  session : one.session = two.session

/- The order does not matter to whether an entry decides. -/
theorem decisive?_eq_none_of_perm
    (hVersion : version.IsNumbered)
    (hPerm : other.supported.Perm plugin.supported) :
    decisive? version other.supported = none ↔
      decisive? version plugin.supported = none := by
  rw [decisive?_eq_none_iff hVersion,
    decisive?_eq_none_iff hVersion]
  constructor
  · intro hBelow entry hEntry
    exact hBelow entry (hPerm.mem_iff.2 hEntry)
  · intro hBelow entry hEntry
    exact hBelow entry (hPerm.mem_iff.1 hEntry)

/- In another order the outcome is the same but for that. -/
theorem gated_differsInOrder
    (hVersion : version.IsNumbered)
    (hNumbered :
      ∀ entry ∈ plugin.supported, entry.IsNumbered)
    (hPerm : other.supported.Perm plugin.supported) :
    DiffersInOrder version plugin other
      (gated handlers plugin command args version session)
      (gated handlers other command args version
        session) := by
  have hOthers :
      ∀ entry ∈ other.supported, entry.IsNumbered :=
    fun entry hEntry =>
      hNumbered entry (hPerm.mem_iff.1 hEntry)
  have hNone := decisive?_eq_none_of_perm hVersion hPerm
  cases hDecisive :
      decisive? version plugin.supported with
  | none =>
      rw [gated_eq_of_exhausted hDecisive,
        gated_eq_of_exhausted (hNone.2 hDecisive)]
      exact ⟨rfl, Or.inl rfl, rfl, rfl⟩
  | some candidate =>
      cases hElsewhere :
          decisive? version other.supported with
      | none =>
          rw [hNone.1 hElsewhere] at hDecisive
          cases hDecisive
      | some instead =>
          rcases hNumbered candidate
              (List.mem_of_find?_eq_some hDecisive) with
            ⟨a, hTriple⟩
          rcases hOthers instead
              (List.mem_of_find?_eq_some hElsewhere) with
            ⟨b, hInstead⟩
          -- Other entries may decide, but only the event
          -- names them.
          by_cases hMem : version ∈ plugin.supported
          · rw [gated_eq_of_mem hDecisive hTriple hMem,
              gated_eq_of_mem hElsewhere hInstead
                (hPerm.mem_iff.2 hMem)]
            constructor
            · rfl
            · exact Or.inl rfl
            · simp [selectionTrace, withoutSelected]
            · rfl
          · have hNot : version ∉ other.supported :=
              fun hOther => hMem (hPerm.mem_iff.1 hOther)
            rw [gated_eq_of_not_mem hDecisive hTriple hMem,
              gated_eq_of_not_mem hElsewhere hInstead hNot]
            constructor
            · rfl
            · exact Or.inr ⟨rfl, rfl⟩
            · simp [selectionTrace, withoutSelected]
            · rfl

end Orders

------------------------------------------------------------
-- The Decision
------------------------------------------------------------

/-
  A command above its floor has the closed form, reaches
  its handler by the exact version alone where all entries
  have numbers, and does so in any order of them.
-/
theorem perform_decided_by_first_decisive
    (namespaces : NamespaceQuery)
    (handlers : Handlers)
    (plugin : Capabilities)
    (session : Session)
    {command : Command}
    {args : Args}
    {floor version : Token}
    (hFloor : floor? command = some floor)
    (hVersion :
      NetworkConfig.version args.config = .ok version)
    (hAtLeast : version.IsAtLeast floor) :
    let performed (versions : Capabilities) :=
      perform (Execution.collaborators namespaces) handlers
        versions command args session
    let isReached :=
      Reaches handlers command args session
    performed plugin =
        gated handlers plugin command args version session ∧
      (isReached (performed plugin) ↔
        (∃ candidate,
          decisive? version plugin.supported =
              some candidate ∧
            candidate.IsNumbered) ∧
        version ∈ plugin.supported) ∧
      ((∀ entry ∈ plugin.supported, entry.IsNumbered) →
        (isReached (performed plugin) ↔
          version ∈ plugin.supported) ∧
        ∀ other : Capabilities,
          other.supported.Perm plugin.supported →
            (isReached (performed other) ↔
              isReached (performed plugin)) ∧
            DiffersInOrder version plugin other
              (performed plugin) (performed other)) := by
  intro performed isReached
  have hClosed :
      ∀ versions,
        performed versions =
          gated handlers versions command args version
            session :=
    fun versions =>
      perform_eq_gated handlers versions session namespaces
        hFloor hVersion hAtLeast
  have hNumber := hAtLeast.isNumbered
  refine ⟨hClosed plugin, ?_, ?_⟩
  · rw [hClosed]
    exact gated_reaches_iff
  · intro hNumbered
    have hReached :
        isReached (performed plugin) ↔
          version ∈ plugin.supported := by
      rw [hClosed]
      exact gated_reaches_iff_mem hNumber hNumbered
    refine ⟨hReached, ?_⟩
    intro other hPerm
    have hOthers :
        ∀ entry ∈ other.supported, entry.IsNumbered :=
      fun entry hEntry =>
        hNumbered entry (hPerm.mem_iff.1 hEntry)
    constructor
    · rw [hReached, ← hPerm.mem_iff, hClosed]
      exact gated_reaches_iff_mem hNumber hOthers
    · rw [hClosed, hClosed]
      exact gated_differsInOrder hNumber hNumbered hPerm

/- A configuration whose version is not the newest one. -/
def olderConfig : Bytes :=
  Utf8.encode "\x7b\"cniVersion\":\"0.4.0\"\x7d"

/- A newer entry decides, and yet the handler is reached. -/
theorem check_reached_behind_newer :
    Reaches {} .check (.ofEnvironment .empty olderConfig) {}
      (perform (Execution.collaborators (.fixed none none))
        {} (.supporting [⟨"1.0.0"⟩, ⟨"0.4.0"⟩]) .check
        (.ofEnvironment .empty olderConfig) {}) := by
  have hFloor : floor? .check = some checkFloor := rfl
  have hVersion :
      NetworkConfig.version
          (Args.ofEnvironment .empty olderConfig).config =
        .ok ⟨"0.4.0"⟩ := by
    decide +kernel
  have hAtLeast :
      Token.IsAtLeast ⟨"0.4.0"⟩ checkFloor := by
    decide +kernel
  have hDecided :=
    perform_decided_by_first_decisive (.fixed none none) {}
      (.supporting [⟨"1.0.0"⟩, ⟨"0.4.0"⟩]) {} hFloor
      hVersion hAtLeast
  apply hDecided.2.1.2
  refine ⟨⟨⟨"1.0.0"⟩, ?_, ?_⟩, ?_⟩
  · decide +kernel
  · decide +kernel
  · decide

end Invocation

end NetPlugin
