import NetPlugin.Negotiation
import NetPlugin.Proofs.Steps
import NetPlugin.Proofs.Version.Order

/-
  How a negotiation goes, and when it passes.

  The scan of the supported versions is decided by their
  first decisive entry: the first one that has no numbers
  or is at least the version of the configuration.

  Main declarations:
    * `Negotiation.decisive?` and `Negotiation.select_eq`
    * `Negotiation.AgreeCourse` and `agree_course`
    * `Negotiation.Course` and `negotiate_course`
    * `Negotiation.Passes` and
      `Negotiation.Course.result_eq_ok_iff`
-/

------------------------------------------------------------
-- Decisive Entries
------------------------------------------------------------

namespace NetPlugin

open Version

namespace Negotiation

/- An entry at which the scan for a version ends. -/
def IsDecisive (version candidate : Token) : Prop :=
  ¬ candidate.IsNumbered ∨ candidate.IsAtLeast version

instance (version candidate : Token) :
    Decidable (IsDecisive version candidate) := by
  unfold IsDecisive
  infer_instance

/- The first decisive entry of a list. -/
def decisive?
    (version : Token)
    (supported : List Token) : Option Token :=
  supported.find? fun candidate =>
    decide (IsDecisive version candidate)

variable {version : Token} {supported : List Token}

/- The scan goes on exactly behind lower versions. -/
theorem not_isDecisive_iff
    (hVersion : version.IsNumbered)
    (candidate : Token) :
    ¬ IsDecisive version candidate ↔
      candidate.IsBelow version := by
  unfold IsDecisive
  constructor
  · intro hNot
    rw [not_or, not_not] at hNot
    exact
      (hNot.1.isAtLeast_or_isBelow hVersion).resolve_left
        hNot.2
  · intro hBelow hDecisive
    rcases hDecisive with hUnnumbered | hAtLeast
    · exact hUnnumbered hBelow.isNumbered
    · exact hBelow.not_isAtLeast hAtLeast

theorem decisive?_eq_none_iff
    (hVersion : version.IsNumbered) :
    decisive? version supported = none ↔
      ∀ candidate ∈ supported,
        candidate.IsBelow version := by
  simp only [decisive?, List.find?_eq_none,
    decide_eq_true_eq, not_isDecisive_iff hVersion]

theorem decisive?_eq_some_iff
    (hVersion : version.IsNumbered)
    (candidate : Token) :
    decisive? version supported = some candidate ↔
      IsDecisive version candidate ∧
        ∃ before after,
          supported = before ++ candidate :: after ∧
            ∀ earlier ∈ before,
              earlier.IsBelow version := by
  simp only [decisive?, List.find?_eq_some_iff_append,
    decide_eq_true_eq, Bool.not_eq_true',
    decide_eq_false_iff_not, not_isDecisive_iff hVersion]

/- The scan finds the first decisive entry, if it can. -/
theorem scan_eq_decisive?
    (hVersion : version.IsNumbered)
    (supported : List Token) :
    scan version supported =
      match decisive? version supported with
      | none => .ok none
      | some candidate =>
          candidate.triple.map fun _ => some candidate := by
  induction supported with
  | nil => rfl
  | cons candidate rest ih =>
      unfold decisive?
      rw [scan]
      cases hTriple : candidate.triple with
      | error e =>
          have hDecisive :
              IsDecisive version candidate :=
            Or.inl (Token.not_isNumbered_of_error hTriple)
          rw [List.find?_cons_of_pos (by simpa),
            Token.atLeast_of_triple_error hTriple]
          simp [hTriple, Except.map]
      | ok a =>
          have hCandidate : candidate.IsNumbered :=
            ⟨a, hTriple⟩
          rcases hCandidate.isAtLeast_or_isBelow hVersion
            with hAtLeast | hBelow
          · have hDecisive :
                IsDecisive version candidate :=
              Or.inr hAtLeast
            rw [List.find?_cons_of_pos (by simpa),
              Token.atLeast_eq_ok_true_iff.2 hAtLeast]
            simp [hTriple, Except.map]
          · have hNot :
                ¬ IsDecisive version candidate :=
              (not_isDecisive_iff hVersion candidate).2
                hBelow
            rw [List.find?_cons_of_neg (by simpa),
              Token.atLeast_eq_ok_false_iff.2 hBelow]
            exact ih

/- The selection is decided by the first decisive entry. -/
theorem select_eq
    (hVersion : version.IsNumbered)
    (command : Command)
    (plugin : Capabilities) :
    select command plugin version =
      match decisive? version plugin.supported with
      | none => .error (pluginTooOld command)
      | some candidate =>
          match candidate.triple with
          | .error e => .error (undecodable e)
          | .ok _ => .ok candidate := by
  unfold select
  rw [scan_eq_decisive? hVersion]
  cases decisive? version plugin.supported with
  | none => rfl
  | some candidate =>
      cases hTriple : candidate.triple <;>
        simp [hTriple, Except.map]

/- The floor is reached, missed, or not comparable. -/
theorem requireFloor_eq_ok_iff
    (command : Command)
    (floor version : Token) :
    requireFloor command floor version = .ok () ↔
      version.IsAtLeast floor := by
  unfold requireFloor
  rw [← Token.atLeast_eq_ok_true_iff]
  split <;> simp [*]

end Negotiation

------------------------------------------------------------
-- Courses of Negotiations
------------------------------------------------------------

/- The session after one more version was decoded. -/
def Session.countDecoding (session : Session) : Session :=
  { session with decodings := session.decodings + 1 }

@[simp]
theorem Session.countDecoding_stdin (session : Session) :
    session.countDecoding.stdin = session.stdin := rfl

@[simp]
theorem Session.countDecoding_stdout (session : Session) :
    session.countDecoding.stdout = session.stdout := rfl

@[simp]
theorem Session.countDecoding_stderr (session : Session) :
    session.countDecoding.stderr = session.stderr := rfl

@[simp]
theorem Session.countDecoding_decodings
    (session : Session) :
    session.countDecoding.decodings =
      session.decodings + 1 := rfl

namespace Negotiation

variable (c : Collaborators) (plugin : Capabilities)
variable (command : Command) (config : Bytes)
variable (session : Session)

/-
  The ways in which a version is decoded and reconciled,
  with all that each of them leaves.
-/
inductive AgreeCourse (outcome : Outcome Unit) : Prop
  | undecoded
      (e : VersionError)
      (hDecode :
        c.decode session.decodings config = .error e)
      (hOutcome :
        outcome =
          ⟨.error (undecodable e), [.decoded config],
            session.countDecoding⟩)
  | refused
      (version : Token)
      (refusal : Refusal)
      (hDecode :
        c.decode session.decodings config = .ok version)
      (hReconcile :
        c.reconcile version plugin = .error refusal)
      (hOutcome :
        outcome =
          ⟨.error (notReconciled refusal),
            [.decoded config, .reconciled version,
              .logged (.versionRefused version)],
            session.countDecoding⟩)
  | agreed
      (version : Token)
      (hDecode :
        c.decode session.decodings config = .ok version)
      (hReconcile :
        c.reconcile version plugin = .ok ())
      (hOutcome :
        outcome =
          ⟨.ok (), [.decoded config, .reconciled version],
            session.countDecoding⟩)

variable {c config session}

/- One decoding, as the session counts them. -/
theorem decode_eq_ok
    {version : Token}
    (hDecode :
      c.decode session.decodings config = .ok version) :
    decode c config session =
      ⟨.ok version, [.decoded config],
        session.countDecoding⟩ := by
  unfold decode
  rw [hDecode]
  rfl

theorem decode_eq_error
    {e : VersionError}
    (hDecode :
      c.decode session.decodings config = .error e) :
    decode c config session =
      ⟨.error (undecodable e), [.decoded config],
        session.countDecoding⟩ := by
  unfold decode
  rw [hDecode]
  rfl

variable (c config session)

theorem agree_course :
    AgreeCourse c plugin config session
      (agree c plugin config session) := by
  unfold agree
  cases hDecode : c.decode session.decodings config with
  | error e =>
      exact
        .undecoded e hDecode
          (Step.bind_eq_error (decode_eq_error hDecode) _)
  | ok version =>
      rw [Step.bind_eq_behind (decode_eq_ok hDecode),
        Step.bind_observe]
      cases hReconcile : c.reconcile version plugin with
      | ok accepted =>
          exact .agreed version hDecode hReconcile rfl
      | error refusal =>
          exact
            .refused version refusal hDecode hReconcile rfl

/-
  The ways in which a negotiation goes.  A command with a
  floor has the version decoded twice, and only the second
  time reconciled.
-/
inductive Course (outcome : Outcome Unit) : Prop
  | unfloored
      (hFloor : floor? command = none)
      (hAgree :
        AgreeCourse c plugin config session outcome)
  | undecoded
      (e : VersionError)
      (hFloor : (floor? command).isSome)
      (hDecode :
        c.decode session.decodings config = .error e)
      (hOutcome :
        outcome =
          ⟨.error (undecodable e), [.decoded config],
            session.countDecoding⟩)
  | unnumbered
      (version : Token)
      (e : VersionError)
      (hFloor : (floor? command).isSome)
      (hDecode :
        c.decode session.decodings config = .ok version)
      (hVersion : version.triple = .error e)
      (hOutcome :
        outcome =
          ⟨.error (undecodable e), [.decoded config],
            session.countDecoding⟩)
  | belowFloor
      (floor version : Token)
      (hFloor : floor? command = some floor)
      (hDecode :
        c.decode session.decodings config = .ok version)
      (hBelow : version.IsBelow floor)
      (hOutcome :
        outcome =
          ⟨.error (configTooOld command),
            [.decoded config], session.countDecoding⟩)
  | exhausted
      (floor version : Token)
      (hFloor : floor? command = some floor)
      (hDecode :
        c.decode session.decodings config = .ok version)
      (hAtLeast : version.IsAtLeast floor)
      (hDecisive :
        decisive? version plugin.supported = none)
      (hOutcome :
        outcome =
          ⟨.error (pluginTooOld command),
            [.decoded config], session.countDecoding⟩)
  | unscannable
      (floor version candidate : Token)
      (e : VersionError)
      (hFloor : floor? command = some floor)
      (hDecode :
        c.decode session.decodings config = .ok version)
      (hAtLeast : version.IsAtLeast floor)
      (hDecisive :
        decisive? version plugin.supported =
          some candidate)
      (hCandidate : candidate.triple = .error e)
      (hOutcome :
        outcome =
          ⟨.error (undecodable e), [.decoded config],
            session.countDecoding⟩)
  | selected
      (floor version candidate : Token)
      (inner : Outcome Unit)
      (hFloor : floor? command = some floor)
      (hDecode :
        c.decode session.decodings config = .ok version)
      (hAtLeast : version.IsAtLeast floor)
      (hDecisive :
        decisive? version plugin.supported =
          some candidate)
      (hCandidate : candidate.IsNumbered)
      (hAgree :
        AgreeCourse c plugin config session.countDecoding
          inner)
      (hOutcome :
        outcome =
          inner.behind
            [.decoded config,
              .logged
                (.versionSelected version candidate
                  command)])

/- A floor can always be compared with. -/
theorem isNumbered_of_floor?
    {command : Command}
    {floor : Token}
    (hFloor : floor? command = some floor) :
    floor.IsNumbered := by
  cases command with
  | check =>
      cases hFloor
      exact ⟨⟨0, 4, 0⟩, rfl⟩
  | gc =>
      cases hFloor
      exact ⟨⟨1, 1, 0⟩, rfl⟩
  | _ => cases hFloor

variable {c command config session}
variable {floor version : Token}

/- Negotiation above a floor, once the version is known. -/
theorem agreeAbove_of_decode
    (hDecode :
      c.decode session.decodings config = .ok version) :
    agreeAbove c plugin command floor config session =
      ((Step.ofResult (requireFloor command floor version) >>=
        fun _ =>
          Step.ofResult (select command plugin version) >>=
        fun candidate =>
          Step.log
            (.versionSelected version candidate command) >>=
        fun _ => agree c plugin config)
          session.countDecoding).behind
            [.decoded config] :=
  Step.bind_eq_behind (decode_eq_ok hDecode) _

/- A floor that is not reached ends the negotiation. -/
theorem course_of_not_isAtLeast
    (hFloor : floor? command = some floor)
    (hDecode :
      c.decode session.decodings config = .ok version)
    (hNot : ¬ version.IsAtLeast floor) :
    Course c plugin command config session
      (agreeAbove c plugin command floor config
        session) := by
  rw [agreeAbove_of_decode plugin hDecode]
  have hSome : (floor? command).isSome := by
    rw [hFloor]
    rfl
  cases hCompare : version.atLeast floor with
  | error e =>
      have hRequire :
          requireFloor command floor version =
            .error (undecodable e) := by
        unfold requireFloor
        rw [hCompare]
      rw [Step.bind_ofResult_error hRequire]
      rcases (Token.atLeast_eq_error_iff e).1 hCompare with
        hVersion | ⟨_, hNoFloor⟩
      · exact
          .unnumbered version e hSome hDecode hVersion rfl
      · exact
          absurd (isNumbered_of_floor? hFloor)
            (Token.not_isNumbered_of_error hNoFloor)
  | ok reached =>
      cases reached with
      | true =>
          exact
            absurd (Token.atLeast_eq_ok_true_iff.1 hCompare)
              hNot
      | false =>
          have hRequire :
              requireFloor command floor version =
                .error (configTooOld command) := by
            unfold requireFloor
            rw [hCompare]
          rw [Step.bind_ofResult_error hRequire]
          exact
            .belowFloor floor version hFloor hDecode
              (Token.atLeast_eq_ok_false_iff.1 hCompare) rfl

/- Above the floor the first decisive entry decides. -/
theorem course_of_isAtLeast
    (hFloor : floor? command = some floor)
    (hDecode :
      c.decode session.decodings config = .ok version)
    (hAtLeast : version.IsAtLeast floor) :
    Course c plugin command config session
      (agreeAbove c plugin command floor config
        session) := by
  have hRequire :=
    (requireFloor_eq_ok_iff command floor version).2
      hAtLeast
  have hSelect := select_eq hAtLeast.isNumbered command plugin
  rw [agreeAbove_of_decode plugin hDecode,
    Step.bind_ofResult_ok hRequire]
  cases hDecisive :
      decisive? version plugin.supported with
  | none =>
      rw [hDecisive] at hSelect
      rw [Step.bind_ofResult_error hSelect]
      exact
        .exhausted floor version hFloor hDecode hAtLeast
          hDecisive rfl
  | some candidate =>
      rw [hDecisive] at hSelect
      cases hCandidate : candidate.triple with
      | error e =>
          simp only [hCandidate] at hSelect
          rw [Step.bind_ofResult_error hSelect]
          exact
            .unscannable floor version candidate e hFloor
              hDecode hAtLeast hDecisive hCandidate rfl
      | ok a =>
          simp only [hCandidate] at hSelect
          rw [Step.bind_ofResult_ok hSelect, Step.bind_log,
            Outcome.behind_behind]
          exact
            .selected floor version candidate _ hFloor
              hDecode hAtLeast hDecisive ⟨a, hCandidate⟩
              (agree_course c plugin config _) rfl

variable (c command config session)

theorem negotiate_course :
    Course c plugin command config session
      (negotiate c plugin command config session) := by
  unfold negotiate
  cases hFloor : floor? command with
  | none =>
      exact
        .unfloored hFloor
          (agree_course c plugin config session)
  | some floor =>
      cases hDecode :
          c.decode session.decodings config with
      | error e =>
          have hSome : (floor? command).isSome := by
            rw [hFloor]
            rfl
          exact
            .undecoded e hSome hDecode
              (Step.bind_eq_error
                (decode_eq_error hDecode) _)
      | ok version =>
          by_cases hAtLeast : version.IsAtLeast floor
          · exact
              course_of_isAtLeast plugin hFloor hDecode
                hAtLeast
          · exact
              course_of_not_isAtLeast plugin hFloor hDecode
                hAtLeast

end Negotiation

------------------------------------------------------------
-- What a Negotiation Leaves
------------------------------------------------------------

/-
  No handler was called, no namespace was asked for, the
  reconciler was asked at most once, and the streams are as
  they were.
-/
structure Outcome.IsQuiet
    {α : Type}
    (session : Session)
    (outcome : Outcome α) : Prop where
  calls : outcome.trace.calls = []
  queries : outcome.trace.queries = []
  reconciliations :
    outcome.trace.reconciliations.length ≤ 1
  stdin : outcome.session.stdin = session.stdin
  stdout : outcome.session.stdout = session.stdout
  stderr : outcome.session.stderr = session.stderr

namespace Negotiation

variable {c : Collaborators} {plugin : Capabilities}
variable {command : Command} {config : Bytes}
variable {session : Session} {outcome : Outcome Unit}

theorem AgreeCourse.isQuiet
    (hCourse :
      AgreeCourse c plugin config session outcome) :
    outcome.IsQuiet session := by
  cases hCourse with
  | undecoded e _ hOutcome =>
      subst hOutcome
      constructor <;> simp
  | refused version refusal _ _ hOutcome =>
      subst hOutcome
      constructor <;> simp
  | agreed version _ _ hOutcome =>
      subst hOutcome
      constructor <;> simp

theorem Course.isQuiet
    (hCourse :
      Course c plugin command config session outcome) :
    outcome.IsQuiet session := by
  cases hCourse with
  | unfloored _ hAgree => exact hAgree.isQuiet
  | selected floor version candidate inner _ _ _ _ _ hAgree
      hOutcome =>
      have hInner := hAgree.isQuiet
      subst hOutcome
      constructor
      · simp [hInner.calls]
      · simp [hInner.queries]
      · simpa using hInner.reconciliations
      · exact hInner.stdin
      · exact hInner.stdout
      · exact hInner.stderr
  | _ =>
      rename_i hOutcome
      subst hOutcome
      constructor <;> simp

/- How often the version is decoded for a command. -/
def decodingsOf (command : Command) : Nat :=
  if (floor? command).isSome then 2 else 1

theorem AgreeCourse.decodings
    (hCourse :
      AgreeCourse c plugin config session outcome) :
    outcome.session.decodings = session.decodings + 1 := by
  cases hCourse with
  | undecoded e _ hOutcome => simp [hOutcome]
  | refused version refusal _ _ hOutcome => simp [hOutcome]
  | agreed version _ _ hOutcome => simp [hOutcome]

/- A negotiation that passes has used the decoder up. -/
theorem Course.decodings_of_ok
    (hCourse :
      Course c plugin command config session outcome)
    (hResult : outcome.result = .ok ()) :
    outcome.session.decodings =
      session.decodings + decodingsOf command := by
  unfold decodingsOf
  cases hCourse with
  | unfloored hFloor hAgree =>
      simp [hFloor, hAgree.decodings]
  | selected floor version candidate inner hFloor _ _ _ _
      hAgree hOutcome =>
      simp [hFloor, hOutcome, hAgree.decodings]
  | _ =>
      rename_i hOutcome
      rw [hOutcome] at hResult
      cases hResult

------------------------------------------------------------
-- When a Negotiation Passes
------------------------------------------------------------

/- A decoding succeeds, and its version is accepted. -/
def Agrees
    (c : Collaborators)
    (plugin : Capabilities)
    (count : Nat)
    (config : Bytes) : Prop :=
  ∃ version, c.decode count config = .ok version ∧
    c.reconcile version plugin = .ok ()

/-
  A version reaches a floor, and a supported one reaches
  the version, behind lower ones only.
-/
structure Clears
    (plugin : Capabilities)
    (floor version : Token) : Prop where
  atLeast : version.IsAtLeast floor
  supported :
    ∃ before candidate after,
      plugin.supported = before ++ candidate :: after ∧
        candidate.IsAtLeast version ∧
        ∀ earlier ∈ before, earlier.IsBelow version

/- The first decoding clears a floor, the second agrees. -/
def AgreesAbove
    (c : Collaborators)
    (plugin : Capabilities)
    (count : Nat)
    (config : Bytes)
    (floor : Token) : Prop :=
  (∃ version, c.decode count config = .ok version ∧
    Clears plugin floor version) ∧
  Agrees c plugin (count + 1) config

/-
  The version of a configuration is good for a command of a
  plugin; VERSION is here as any command without a floor.
-/
def Passes
    (c : Collaborators)
    (plugin : Capabilities)
    (count : Nat)
    (config : Bytes) : Command → Prop
  | .check => AgreesAbove c plugin count config ⟨"0.4.0"⟩
  | .gc => AgreesAbove c plugin count config ⟨"1.1.0"⟩
  | _ => Agrees c plugin count config

theorem passes_of_floor?_eq_none
    (hFloor : floor? command = none)
    (count : Nat) :
    Passes c plugin count config command ↔
      Agrees c plugin count config := by
  cases command with
  | check => cases hFloor
  | gc => cases hFloor
  | _ => exact Iff.rfl

theorem passes_of_floor?_eq_some
    {floor : Token}
    (hFloor : floor? command = some floor)
    (count : Nat) :
    Passes c plugin count config command ↔
      AgreesAbove c plugin count config floor := by
  cases command <;> cases hFloor <;> rfl

theorem AgreeCourse.result_eq_ok_iff
    (hCourse :
      AgreeCourse c plugin config session outcome) :
    outcome.result = .ok () ↔
      Agrees c plugin session.decodings config := by
  unfold Agrees
  cases hCourse with
  | undecoded e hDecode hOutcome =>
      simp [hOutcome, hDecode]
  | refused version refusal hDecode hReconcile hOutcome =>
      simp [hOutcome, hDecode, hReconcile]
  | agreed version hDecode hReconcile hOutcome =>
      simp [hOutcome, hDecode, hReconcile]

/- Clearing a floor is said by the first decisive entry. -/
theorem clears_iff
    {floor version : Token}
    (hAtLeast : version.IsAtLeast floor) :
    Clears plugin floor version ↔
      ∃ candidate,
        decisive? version plugin.supported =
            some candidate ∧
          candidate.IsNumbered := by
  have hVersion := hAtLeast.isNumbered
  constructor
  · rintro ⟨_, before, candidate, after, hList, hReached,
      hBefore⟩
    refine ⟨candidate, ?_, hReached.isNumbered⟩
    rw [decisive?_eq_some_iff hVersion]
    exact
      ⟨Or.inr hReached, before, after, hList, hBefore⟩
  · rintro ⟨candidate, hDecisive, hNumbered⟩
    rw [decisive?_eq_some_iff hVersion] at hDecisive
    rcases hDecisive with
      ⟨hNot | hReached, before, after, hList, hBefore⟩
    · exact absurd hNumbered hNot
    · exact
        ⟨hAtLeast, before, candidate, after, hList,
          hReached, hBefore⟩

/- A negotiation succeeds exactly when it should pass. -/
theorem Course.result_eq_ok_iff
    (hCourse :
      Course c plugin command config session outcome) :
    outcome.result = .ok () ↔
      Passes c plugin session.decodings config command := by
  cases hCourse with
  | unfloored hFloor hAgree =>
      rw [passes_of_floor?_eq_none hFloor]
      exact hAgree.result_eq_ok_iff
  | undecoded e hFloor hDecode hOutcome =>
      rcases Option.isSome_iff_exists.1 hFloor with
        ⟨floor, hFloor⟩
      rw [passes_of_floor?_eq_some hFloor]
      simp [hOutcome, AgreesAbove, hDecode]
  | unnumbered version e hFloor hDecode hVersion hOutcome =>
      rcases Option.isSome_iff_exists.1 hFloor with
        ⟨floor, hFloor⟩
      rw [passes_of_floor?_eq_some hFloor]
      have hNot : ¬ Clears plugin floor version :=
        fun hClears =>
          Token.not_isNumbered_of_error hVersion
            hClears.atLeast.isNumbered
      simp [hOutcome, AgreesAbove, hDecode, hNot]
  | belowFloor floor version hFloor hDecode hBelow
      hOutcome =>
      rw [passes_of_floor?_eq_some hFloor]
      have hNot : ¬ Clears plugin floor version :=
        fun hClears => hBelow.not_isAtLeast hClears.atLeast
      simp [hOutcome, AgreesAbove, hDecode, hNot]
  | exhausted floor version hFloor hDecode hAtLeast
      hDecisive hOutcome =>
      rw [passes_of_floor?_eq_some hFloor]
      have hNot : ¬ Clears plugin floor version := by
        rw [clears_iff hAtLeast, hDecisive]
        simp
      simp [hOutcome, AgreesAbove, hDecode, hNot]
  | unscannable floor version candidate e hFloor hDecode
      hAtLeast hDecisive hCandidate hOutcome =>
      rw [passes_of_floor?_eq_some hFloor]
      have hNot : ¬ Clears plugin floor version := by
        rw [clears_iff hAtLeast, hDecisive]
        simp [Token.not_isNumbered_of_error hCandidate]
      simp [hOutcome, AgreesAbove, hDecode, hNot]
  | selected floor version candidate inner hFloor hDecode
      hAtLeast hDecisive hCandidate hAgree hOutcome =>
      rw [passes_of_floor?_eq_some hFloor]
      have hClears : Clears plugin floor version :=
        (clears_iff hAtLeast).2
          ⟨candidate, hDecisive, hCandidate⟩
      have hInner := hAgree.result_eq_ok_iff
      simp only [Session.countDecoding_decodings] at hInner
      simp [hOutcome, AgreesAbove, hDecode, hClears, hInner]

end Negotiation

end NetPlugin
