import NetPlugin.Proofs.Negotiation

/-
  What a negotiation logs.

  The log alone tells which supported version was chosen
  and which version was refused.  It is read here by the
  words of its entries, and every entry is tied to what the
  decoder, the list and the reconciler say.

  Main declarations:
    * `Log.AreDue`
    * `Trace.entries`
    * `Negotiation.Selects` and `Negotiation.Consults`
    * `Negotiation.Logs` and `Course.exists_logs`
-/

------------------------------------------------------------
-- Entries
------------------------------------------------------------

namespace NetPlugin

namespace Log

namespace Entry

/- An entry that is only of use to find mistakes. -/
def debugging
    (origin : Origin)
    (message : String)
    (fields : List Field) : Entry :=
  { origin, level := .debug, message, fields }

def variablesMissing
    (command : String)
    (absent : List Variable) : Entry :=
  debugging .arguments "required variables missing"
    [ { name := "command", value := command },
      { name := "missing"
        value := Text.quoteList (absent.map Variable.name) } ]

def dispatching
    (command containerId ifName : String) : Entry :=
  debugging .dispatch "dispatching"
    [ { name := "command", value := command },
      { name := "container_id", value := containerId },
      { name := "if_name", value := ifName } ]

def versionSelected
    (config plugin : Version.Token)
    (command : String) : Entry :=
  debugging .negotiation "selected plugin version"
    [ { name := "config_version", value := config.text },
      { name := "plugin_version", value := plugin.text },
      { name := "verb", value := command, quoted := true } ]

def versionRefused (config : Version.Token) : Entry :=
  debugging .negotiation
    "configuration version not supported by plugin"
    [ { name := "config_version", value := config.text } ]

def checkOverridden (netns : String) : Entry :=
  debugging .dispatch "namespace check overridden"
    [ { name := "netns", value := netns } ]

def handlerFailed (message : String) : Entry :=
  { origin := .negotiation
    level := .warn
    message := "handler failed"
    fields := [ { name := "error", value := message } ] }

def printingInformation : Entry :=
  { origin := .dispatch
    level := .info
    message := "no command given, printing plugin information"
    fields := [] }

end Entry

namespace Event

/- The words of the events are those above. -/
@[simp]
theorem entry_dispatching
    (command : Command)
    (containerId ifName : String) :
    (dispatching command containerId ifName).entry =
      Entry.dispatching command.name containerId
        ifName := rfl

@[simp]
theorem entry_versionRefused (config : Version.Token) :
    (versionRefused config).entry =
      Entry.versionRefused config := rfl

@[simp]
theorem entry_handlerFailed (message : String) :
    (handlerFailed message).entry =
      Entry.handlerFailed message := rfl

@[simp]
theorem entry_checkOverridden (netns : String) :
    (checkOverridden netns).entry =
      Entry.checkOverridden netns := rfl

end Event

/- At most one entry, and only if it is due. -/
structure AreDue
    (isDue : Entry → Prop)
    (entries : List Entry) : Prop where
  mem_iff : ∀ entry, entry ∈ entries ↔ isDue entry
  atMostOne : entries.length ≤ 1

variable {isDue isOwed : Entry → Prop}
variable {entries : List Entry}

theorem areDue_nil
    (hNone : ∀ entry, ¬ isDue entry) :
    AreDue isDue [] := by
  constructor
  · intro entry
    simp [hNone entry]
  · exact Nat.zero_le 1

theorem areDue_singleton
    {entry : Entry}
    (hOnly : ∀ other, isDue other ↔ other = entry) :
    AreDue isDue [entry] := by
  constructor
  · intro other
    rw [List.mem_singleton, hOnly]
  · exact Nat.le_refl 1

theorem AreDue.congr
    (hDue : AreDue isDue entries)
    (hSame : ∀ entry, isDue entry ↔ isOwed entry) :
    AreDue isOwed entries := by
  constructor
  · intro entry
    rw [hDue.mem_iff, hSame]
  · exact hDue.atMostOne

end Log

namespace Trace

/- The entries that a trace leaves in the log. -/
def entries (trace : Trace) : List Log.Entry :=
  trace.events.map Log.Event.entry

@[simp]
theorem entries_nil : Trace.entries [] = [] := rfl

@[simp]
theorem entries_cons
    (observation : Observation)
    (rest : Trace) :
    Trace.entries (observation :: rest) =
      (observation.event?.map Log.Event.entry).toList ++
        Trace.entries rest := by
  cases observation <;> rfl

@[simp]
theorem entries_append (first second : Trace) :
    Trace.entries (first ++ second) =
      Trace.entries first ++ Trace.entries second := by
  simp [entries]

@[simp]
theorem entries_map_logged (events : List Log.Event) :
    Trace.entries (events.map .logged) =
      events.map Log.Event.entry := by
  induction events with
  | nil => rfl
  | cons event rest ih => simp [ih]

end Trace

------------------------------------------------------------
-- The Log of a Negotiation
------------------------------------------------------------

namespace Negotiation

open Version

section Spec

variable (c : Collaborators) (plugin : Capabilities)
variable (count : Nat) (config : Bytes) (command : Command)

/-
  The version that is decoded first reaches the floor of
  the command, and the supported one is the first that
  reaches this version, behind lower ones only.
-/
structure Selects (version selected : Token) : Prop where
  floor :
    (command = .check ∧ version.IsAtLeast ⟨"0.4.0"⟩) ∨
      (command = .gc ∧ version.IsAtLeast ⟨"1.1.0"⟩)
  decoded : c.decode count config = .ok version
  chosen :
    ∃ before after,
      plugin.supported = before ++ selected :: after ∧
        ∀ earlier ∈ before, earlier.IsBelow version
  atLeast : selected.IsAtLeast version

/-
  A version is put to the reconciler: the one decoded for
  ADD and DEL, and for the commands with a floor the one
  that is decoded again behind the selection.
-/
def Consults (version : Token) : Prop :=
  ((command = .add ∨ command = .del) ∧
    c.decode count config = .ok version) ∨
  ((∃ first selected,
      Selects c plugin count config command first
        selected) ∧
    c.decode (count + 1) config = .ok version)

/- The entry of a version that is selected. -/
def IsSelection (entry : Log.Entry) : Prop :=
  ∃ version selected,
    Selects c plugin count config command version
        selected ∧
      entry =
        .versionSelected version selected command.name

/- The entry of a version that the reconciler refuses. -/
def IsRefusal (entry : Log.Entry) : Prop :=
  ∃ version refusal,
    Consults c plugin count config command version ∧
      c.reconcile version plugin = .error refusal ∧
      entry = .versionRefused version

end Spec

variable {c : Collaborators} {plugin : Capabilities}
variable {count : Nat} {config : Bytes} {command : Command}
variable {session : Session} {outcome : Outcome Unit}

/- What is selected is the first decisive entry. -/
theorem selects_iff (version selected : Token) :
    Selects c plugin count config command version
        selected ↔
      ∃ floor,
        floor? command = some floor ∧
          c.decode count config = .ok version ∧
          version.IsAtLeast floor ∧
          decisive? version plugin.supported =
            some selected ∧
          selected.IsNumbered := by
  constructor
  · rintro ⟨hFloor, hDecode, ⟨before, after, hList, hBefore⟩,
      hReached⟩
    have hAtLeast :
        ∃ floor,
          floor? command = some floor ∧
            version.IsAtLeast floor := by
      rcases hFloor with ⟨rfl, hAtLeast⟩ | ⟨rfl, hAtLeast⟩
      · exact ⟨_, rfl, hAtLeast⟩
      · exact ⟨_, rfl, hAtLeast⟩
    rcases hAtLeast with ⟨floor, hFloor, hAtLeast⟩
    have hDecisive :=
      (decisive?_eq_some_iff hAtLeast.isNumbered selected).2
        ⟨Or.inr hReached, before, after, hList, hBefore⟩
    exact
      ⟨floor, hFloor, hDecode, hAtLeast, hDecisive,
        hReached.isNumbered⟩
  · rintro ⟨floor, hFloor, hDecode, hAtLeast, hDecisive,
      hNumbered⟩
    rw [decisive?_eq_some_iff hAtLeast.isNumbered]
      at hDecisive
    rcases hDecisive with
      ⟨hNot | hReached, before, after, hList, hBefore⟩
    · exact absurd hNumbered hNot
    · refine
        ⟨?_, hDecode, ⟨before, after, hList, hBefore⟩,
          hReached⟩
      cases command with
      | check =>
          cases hFloor
          exact Or.inl ⟨rfl, hAtLeast⟩
      | gc =>
          cases hFloor
          exact Or.inr ⟨rfl, hAtLeast⟩
      | _ => cases hFloor

theorem selects_iff_of_decode
    {floor version : Token}
    (hFloor : floor? command = some floor)
    (hDecode : c.decode count config = .ok version)
    (first selected : Token) :
    Selects c plugin count config command first selected ↔
      first = version ∧ version.IsAtLeast floor ∧
        decisive? version plugin.supported =
          some selected ∧
        selected.IsNumbered := by
  rw [selects_iff, hDecode]
  constructor
  · rintro ⟨other, hOther, hFirst, hSelected⟩
    cases hFirst
    rw [hFloor] at hOther
    cases hOther
    exact ⟨rfl, hSelected⟩
  · rintro ⟨rfl, hSelected⟩
    exact ⟨floor, hFloor, rfl, hSelected⟩

/- Nothing is selected for a command without a floor. -/
theorem not_selects_of_unfloored
    (hFloor : floor? command = none)
    (version selected : Token) :
    ¬ Selects c plugin count config command version
        selected := by
  rw [selects_iff, hFloor]
  rintro ⟨_, hSome, _⟩
  cases hSome

/- What such a command puts to the reconciler. -/
theorem consults_iff_of_unfloored
    (hFloor : floor? command = none)
    (hServed : command ≠ .version)
    (version : Token) :
    Consults c plugin count config command version ↔
      c.decode count config = .ok version := by
  have hCommand : command = .add ∨ command = .del := by
    cases command with
    | add => exact Or.inl rfl
    | del => exact Or.inr rfl
    | version => exact absurd rfl hServed
    | _ => cases hFloor
  unfold Consults
  simp [hCommand, not_selects_of_unfloored hFloor]

/- Behind a selection the version is decoded again. -/
theorem consults_iff_of_selects
    {first selected : Token}
    (hSelects :
      Selects c plugin count config command first selected)
    (version : Token) :
    Consults c plugin count config command version ↔
      c.decode (count + 1) config = .ok version := by
  have hFloored : ¬ (command = .add ∨ command = .del) := by
    rcases hSelects.floor with ⟨rfl, _⟩ | ⟨rfl, _⟩ <;> simp
  unfold Consults
  rw [or_iff_right (fun hPlain => hFloored hPlain.1)]
  exact and_iff_right ⟨first, selected, hSelects⟩

/- Where nothing is selected, the reconciler is not asked. -/
theorem not_consults
    (hFloor : (floor? command).isSome)
    (hNone :
      ∀ version selected,
        ¬ Selects c plugin count config command version
            selected)
    (version : Token) :
    ¬ Consults c plugin count config command version := by
  rintro (⟨rfl | rfl, _⟩ | ⟨⟨first, selected, hSelects⟩, _⟩)
  · cases hFloor
  · cases hFloor
  · exact hNone first selected hSelects

/- Only a version that is refused leaves an entry. -/
theorem AgreeCourse.areDue
    (hCourse :
      AgreeCourse c plugin config session outcome)
    (hConsults :
      ∀ version,
        Consults c plugin count config command version ↔
          c.decode session.decodings config = .ok version) :
    Log.AreDue (IsRefusal c plugin count config command)
      outcome.trace.entries := by
  unfold IsRefusal
  simp only [hConsults]
  cases hCourse with
  | undecoded e hDecode hOutcome =>
      subst hOutcome
      apply Log.areDue_nil
      simp [hDecode]
  | refused version refusal hDecode hReconcile hOutcome =>
      subst hOutcome
      apply Log.areDue_singleton
      intro other
      simp [hDecode, hReconcile]
  | agreed version hDecode hReconcile hOutcome =>
      subst hOutcome
      apply Log.areDue_nil
      simp [hDecode, hReconcile]

/- A negotiation logs its selection and then its refusal. -/
structure Logs
    (c : Collaborators)
    (plugin : Capabilities)
    (count : Nat)
    (config : Bytes)
    (command : Command)
    (selected refused : List Log.Entry) : Prop where
  selected :
    Log.AreDue (IsSelection c plugin count config command)
      selected
  refused :
    Log.AreDue (IsRefusal c plugin count config command)
      refused

/- One that ends before any selection logs nothing. -/
theorem logs_nil
    (hFloor : (floor? command).isSome)
    (hNone :
      ∀ version selected,
        ¬ Selects c plugin count config command version
            selected) :
    Logs c plugin count config command [] [] := by
  constructor
  · apply Log.areDue_nil
    rintro entry ⟨version, selected, hSelects, _⟩
    exact hNone version selected hSelects
  · apply Log.areDue_nil
    rintro entry ⟨version, refusal, hConsults, _⟩
    exact not_consults hFloor hNone version hConsults

theorem Course.exists_logs
    (hCourse :
      Course c plugin command config session outcome)
    (hServed : command ≠ .version) :
    ∃ selected refused,
      outcome.trace.entries = selected ++ refused ∧
        Logs c plugin session.decodings config command
          selected refused := by
  cases hCourse with
  | unfloored hFloor hAgree =>
      refine ⟨[], outcome.trace.entries, rfl, ?_, ?_⟩
      · apply Log.areDue_nil
        rintro entry ⟨version, selected, hSelects, _⟩
        exact
          not_selects_of_unfloored hFloor version selected
            hSelects
      · exact
          hAgree.areDue
            (consults_iff_of_unfloored hFloor hServed)
  | undecoded e hFloor hDecode hOutcome =>
      subst hOutcome
      refine ⟨[], [], rfl, logs_nil hFloor ?_⟩
      intro first selected hSelects
      have hDecoded := hSelects.decoded
      rw [hDecode] at hDecoded
      cases hDecoded
  | unnumbered version e hFloor hDecode hVersion hOutcome =>
      subst hOutcome
      refine ⟨[], [], rfl, logs_nil hFloor ?_⟩
      intro first selected hSelects
      rcases Option.isSome_iff_exists.1 hFloor with
        ⟨floor, hFloor⟩
      rw [selects_iff_of_decode hFloor hDecode] at hSelects
      exact
        Token.not_isNumbered_of_error hVersion
          hSelects.2.1.isNumbered
  | belowFloor floor version hFloor hDecode hBelow
      hOutcome =>
      subst hOutcome
      refine
        ⟨[], [], rfl, logs_nil (by rw [hFloor]; rfl) ?_⟩
      intro first selected hSelects
      rw [selects_iff_of_decode hFloor hDecode] at hSelects
      exact hBelow.not_isAtLeast hSelects.2.1
  | exhausted floor version hFloor hDecode hAtLeast
      hDecisive hOutcome =>
      subst hOutcome
      refine
        ⟨[], [], rfl, logs_nil (by rw [hFloor]; rfl) ?_⟩
      intro first selected hSelects
      rw [selects_iff_of_decode hFloor hDecode, hDecisive]
        at hSelects
      cases hSelects.2.2.1
  | unscannable floor version candidate e hFloor hDecode
      hAtLeast hDecisive hCandidate hOutcome =>
      subst hOutcome
      refine
        ⟨[], [], rfl, logs_nil (by rw [hFloor]; rfl) ?_⟩
      intro first selected hSelects
      rw [selects_iff_of_decode hFloor hDecode, hDecisive]
        at hSelects
      rcases hSelects with ⟨_, _, hSame, hNumbered⟩
      cases hSame
      exact Token.not_isNumbered_of_error hCandidate hNumbered
  | selected floor version candidate inner hFloor hDecode
      hAtLeast hDecisive hCandidate hAgree hOutcome =>
      subst hOutcome
      have hSelects :
          ∀ first selected,
            Selects c plugin session.decodings config command
                first selected ↔
              first = version ∧ selected = candidate := by
        intro first selected
        rw [selects_iff_of_decode hFloor hDecode, hDecisive]
        constructor
        · rintro ⟨hFirst, _, hSame, _⟩
          exact ⟨hFirst, (Option.some.inj hSame).symm⟩
        · rintro ⟨hFirst, rfl⟩
          exact ⟨hFirst, hAtLeast, rfl, hCandidate⟩
      refine
        ⟨[.versionSelected version candidate command.name],
          inner.trace.entries, rfl, ?_, ?_⟩
      · apply Log.areDue_singleton
        intro other
        constructor
        · rintro ⟨first, selected, hSelected, hEntry⟩
          rcases (hSelects first selected).1 hSelected with
            ⟨rfl, rfl⟩
          exact hEntry
        · intro hEntry
          exact
            ⟨version, candidate,
              (hSelects version candidate).2 ⟨rfl, rfl⟩,
              hEntry⟩
      · exact
          hAgree.areDue
            (consults_iff_of_selects
              ((hSelects version candidate).2 ⟨rfl, rfl⟩))

end Negotiation

end NetPlugin
