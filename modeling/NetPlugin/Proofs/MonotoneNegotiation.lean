import NetPlugin.Proofs.HandlerGate

/-
  Negotiation is monotone.

  A command with a higher floor is reached by fewer
  configurations, as the order of versions is transitive.
  A plugin that supports more versions refuses none of the
  configurations it served before: a version that is put
  into its list ends the scan, or the scan goes on behind it
  as it did.

  Main declarations:
    * `Negotiation.Extends` and `Extends.clears`
    * `Negotiation.Reached`
    * `Negotiation.IsMonotone`
    * `Negotiation.negotiate_isMonotone`
-/

------------------------------------------------------------
-- Longer Lists
------------------------------------------------------------

namespace NetPlugin

open Version

namespace Negotiation

/- A version that clears a floor clears a lower one. -/
theorem Clears.of_isAtLeast
    {plugin : Capabilities}
    {floor lower version : Token}
    (hFloor : floor.IsAtLeast lower)
    (hClears : Clears plugin floor version) :
    Clears plugin lower version :=
  ⟨hClears.atLeast.trans hFloor, hClears.supported⟩

/- A list with more tokens in any places, all numbered. -/
inductive Extends : List Token → List Token → Prop
  | nil : Extends [] []
  | keep
      (token : Token)
      {few many : List Token}
      (hRest : Extends few many) :
      Extends (token :: few) (token :: many)
  | insert
      {token : Token}
      {few many : List Token}
      (hNumbered : token.IsNumbered)
      (hRest : Extends few many) :
      Extends few (token :: many)

theorem Extends.mem
    {few many : List Token}
    (hExtends : Extends few many)
    {token : Token}
    (hToken : token ∈ few) :
    token ∈ many := by
  induction hExtends with
  | nil => cases hToken
  | keep first hRest ih =>
      rcases List.mem_cons.1 hToken with rfl | hToken
      · exact List.mem_cons_self
      · exact List.mem_cons_of_mem _ (ih hToken)
  | insert hNumbered hRest ih =>
      exact List.mem_cons_of_mem _ (ih hToken)

/- The scan for a version ends at one that reaches it. -/
def Supports
    (version : Token)
    (supported : List Token) : Prop :=
  ∃ before candidate after,
    supported = before ++ candidate :: after ∧
      candidate.IsAtLeast version ∧
      ∀ earlier ∈ before, earlier.IsBelow version

theorem supports_of_isAtLeast
    {version candidate : Token}
    (hReached : candidate.IsAtLeast version)
    (rest : List Token) :
    Supports version (candidate :: rest) :=
  ⟨[], candidate, rest, rfl, hReached, by simp⟩

/- Behind a lower version the scan goes on. -/
theorem Supports.cons
    {version candidate : Token}
    {supported : List Token}
    (hBelow : candidate.IsBelow version)
    (hSupports : Supports version supported) :
    Supports version (candidate :: supported) := by
  rcases hSupports with
    ⟨before, found, after, rfl, hReached, hBefore⟩
  refine
    ⟨candidate :: before, found, after, rfl, hReached, ?_⟩
  rw [List.forall_mem_cons]
  exact ⟨hBelow, hBefore⟩

theorem Supports.head_cases
    {version candidate : Token}
    {supported : List Token}
    (hSupports : Supports version (candidate :: supported)) :
    candidate.IsAtLeast version ∨
      candidate.IsBelow version ∧
        Supports version supported := by
  rcases hSupports with
    ⟨before, found, after, hList, hReached, hBefore⟩
  cases before with
  | nil =>
      rw [(List.cons.inj hList).1]
      exact Or.inl hReached
  | cons first before =>
      rw [List.cons_append] at hList
      rcases List.cons.inj hList with ⟨rfl, rfl⟩
      rw [List.forall_mem_cons] at hBefore
      exact
        Or.inr
          ⟨hBefore.1, before, found, after, rfl, hReached,
            hBefore.2⟩

/-
  The induction is on the insertions.  A token that is put
  in front either reaches the version, and is then found, or
  is below it, and the scan passes it.
-/
theorem Extends.supports
    {few many : List Token}
    (hExtends : Extends few many)
    {version : Token}
    (hVersion : version.IsNumbered)
    (hSupports : Supports version few) :
    Supports version many := by
  induction hExtends with
  | nil => exact hSupports
  | keep token hRest ih =>
      rcases hSupports.head_cases with
        hReached | ⟨hBelow, hLater⟩
      · exact supports_of_isAtLeast hReached _
      · exact (ih hLater).cons hBelow
  | insert hNumbered hRest ih =>
      rcases hNumbered.isAtLeast_or_isBelow hVersion with
        hReached | hBelow
      · exact supports_of_isAtLeast hReached _
      · exact (ih hSupports).cons hBelow

theorem Extends.clears
    {plugin other : Capabilities}
    (hExtends : Extends plugin.supported other.supported)
    {floor version : Token}
    (hClears : Clears plugin floor version) :
    Clears other floor version :=
  ⟨hClears.atLeast,
    hExtends.supports hClears.atLeast.isNumbered
      hClears.supported⟩

------------------------------------------------------------
-- Pure Decoders
------------------------------------------------------------

/- Collaborators whose decoder always answers the same. -/
def pureCollaborators
    (decoder : Bytes → Except VersionError Token)
    (reconciler :
      Token → Capabilities → Except Refusal Unit)
    (namespaces : NamespaceQuery) : Collaborators :=
  { decode := fun _ config => decoder config
    reconcile := reconciler
    namespaces }

/-
  A command reaches its handler with a configuration: the
  negotiation passes in every session.
-/
def Reached
    (c : Collaborators)
    (plugin : Capabilities)
    (command : Command)
    (config : Bytes) : Prop :=
  ∀ session,
    (negotiate c plugin command config session).result =
      .ok ()

section Pure

variable {decoder : Bytes → Except VersionError Token}
variable
  {reconciler : Token → Capabilities → Except Refusal Unit}
variable {namespaces : NamespaceQuery}
variable {plugin : Capabilities} {command : Command}
variable {config : Bytes}

/- It does not matter how often the version was decoded. -/
theorem passes_pureCollaborators_iff (count other : Nat) :
    Passes (pureCollaborators decoder reconciler namespaces)
        plugin count config command ↔
      Passes
        (pureCollaborators decoder reconciler namespaces)
        plugin other config command := by
  cases command <;> exact Iff.rfl

theorem negotiate_result_iff (session : Session) :
    (negotiate
        (pureCollaborators decoder reconciler namespaces)
        plugin command config session).result =
        .ok () ↔
      Passes (pureCollaborators decoder reconciler namespaces)
        plugin 0 config command := by
  have hCourse :=
    negotiate_course
      (pureCollaborators decoder reconciler namespaces)
      plugin command config session
  exact
    hCourse.result_eq_ok_iff.trans
      (passes_pureCollaborators_iff _ 0)

theorem reached_iff :
    Reached (pureCollaborators decoder reconciler namespaces)
        plugin command config ↔
      Passes (pureCollaborators decoder reconciler namespaces)
        plugin 0 config command := by
  constructor
  · intro hReached
    exact (negotiate_result_iff _).1 (hReached {})
  · intro hPasses session
    exact (negotiate_result_iff session).2 hPasses

/- A handler that is set is called where it is reached. -/
theorem mem_calls_iff_reached
    (handlers : Handlers)
    (args : Args)
    (session : Session)
    (hSet : (handlers.handler? command).isSome) :
    (command, args) ∈
        (Invocation.perform
          (pureCollaborators decoder reconciler namespaces)
          handlers plugin command args session).trace.calls ↔
      Reached
        (pureCollaborators decoder reconciler namespaces)
        plugin command args.config := by
  have hPerformed :=
    Invocation.perform_performed
      (pureCollaborators decoder reconciler namespaces)
      handlers plugin command args session
  rw [hPerformed.mem_calls_iff, reached_iff,
    passes_pureCollaborators_iff session.decodings 0]
  exact
    ⟨fun hCalled => hCalled.2.2,
      fun hPasses => ⟨rfl, hSet, hPasses⟩⟩

/- Above a higher floor, a lower one is cleared as well. -/
theorem passes_check_of_gc
    (hPasses :
      Passes (pureCollaborators decoder reconciler namespaces)
        plugin 0 config .gc) :
    Passes (pureCollaborators decoder reconciler namespaces)
      plugin 0 config .check := by
  rcases hPasses with ⟨⟨version, hDecode, hClears⟩, hAgrees⟩
  have hFloors :
      Token.IsAtLeast ⟨"1.1.0"⟩ ⟨"0.4.0"⟩ := by
    decide +kernel
  exact
    ⟨⟨version, hDecode, hClears.of_isAtLeast hFloors⟩,
      hAgrees⟩

/- What is agreed above a floor is agreed without it. -/
theorem agrees_of_check
    (hPasses :
      Passes (pureCollaborators decoder reconciler namespaces)
        plugin 0 config .check) :
    Agrees (pureCollaborators decoder reconciler namespaces)
      plugin 0 config :=
  hPasses.2

theorem Extends.agrees
    {other : Capabilities}
    (hExtends : Extends plugin.supported other.supported)
    {count : Nat}
    (hAgrees :
      Agrees
        (pureCollaborators decoder Version.reconcile
          namespaces)
        plugin count config) :
    Agrees
      (pureCollaborators decoder Version.reconcile namespaces)
      other count config := by
  rcases hAgrees with ⟨version, hDecode, hReconcile⟩
  have hListed : version ∈ plugin.supported :=
    (reconcileWith_eq_ok_iff _ _).1 hReconcile
  exact
    ⟨version, hDecode,
      (reconcileWith_eq_ok_iff _ _).2
        (hExtends.mem hListed)⟩

theorem Extends.agreesAbove
    {other : Capabilities}
    (hExtends : Extends plugin.supported other.supported)
    {count : Nat}
    {floor : Token}
    (hAgrees :
      AgreesAbove
        (pureCollaborators decoder Version.reconcile
          namespaces)
        plugin count config floor) :
    AgreesAbove
      (pureCollaborators decoder Version.reconcile namespaces)
      other count config floor := by
  rcases hAgrees with ⟨⟨version, hDecode, hClears⟩, hAgrees⟩
  exact
    ⟨⟨version, hDecode, hExtends.clears hClears⟩,
      hExtends.agrees hAgrees⟩

theorem Extends.passes
    {other : Capabilities}
    (hExtends : Extends plugin.supported other.supported)
    {count : Nat}
    (hPasses :
      Passes
        (pureCollaborators decoder Version.reconcile
          namespaces)
        plugin count config command) :
    Passes
      (pureCollaborators decoder Version.reconcile namespaces)
      other count config command := by
  cases command with
  | check => exact hExtends.agreesAbove hPasses
  | gc => exact hExtends.agreesAbove hPasses
  | add => exact hExtends.agrees hPasses
  | del => exact hExtends.agrees hPasses
  | version => exact hExtends.agrees hPasses

end Pure

------------------------------------------------------------
-- Monotonicity
------------------------------------------------------------

/-
  With a pure decoder, to reach a handler is a matter of the
  command, the configuration and the plugin alone.  What
  reaches GC reaches CHECK, and what reaches CHECK reaches
  ADD and DEL; with exact reconciliation, what reaches a
  handler does so with more versions, too.
-/
structure IsMonotone
    (decoder : Bytes → Except VersionError Token)
    (reconciler :
      Token → Capabilities → Except Refusal Unit)
    (namespaces : NamespaceQuery)
    (plugin : Capabilities)
    (config : Bytes) : Prop where
  negotiated_iff :
    ∀ command session,
      (negotiate
          (pureCollaborators decoder reconciler namespaces)
          plugin command config session).result =
          .ok () ↔
        Reached
          (pureCollaborators decoder reconciler namespaces)
          plugin command config
  called_iff :
    ∀ handlers command args session,
      (handlers.handler? command).isSome →
      args.config = config →
      ((command, args) ∈
          (Invocation.perform
            (pureCollaborators decoder reconciler namespaces)
            handlers plugin command args
            session).trace.calls ↔
        Reached
          (pureCollaborators decoder reconciler namespaces)
          plugin command config)
  check_of_gc :
    Reached (pureCollaborators decoder reconciler namespaces)
      plugin .gc config →
    Reached (pureCollaborators decoder reconciler namespaces)
      plugin .check config
  add_of_check :
    Reached (pureCollaborators decoder reconciler namespaces)
      plugin .check config →
    Reached (pureCollaborators decoder reconciler namespaces)
      plugin .add config
  del_of_check :
    Reached (pureCollaborators decoder reconciler namespaces)
      plugin .check config →
    Reached (pureCollaborators decoder reconciler namespaces)
      plugin .del config
  extended :
    ∀ (other : Capabilities) command,
      Extends plugin.supported other.supported →
      Reached
        (pureCollaborators decoder Version.reconcile
          namespaces)
        plugin command config →
      Reached
        (pureCollaborators decoder Version.reconcile
          namespaces)
        other command config

/- Each part follows from when a negotiation passes. -/
theorem negotiate_isMonotone
    (decoder : Bytes → Except VersionError Token)
    (reconciler :
      Token → Capabilities → Except Refusal Unit)
    (namespaces : NamespaceQuery)
    (plugin : Capabilities)
    (config : Bytes) :
    IsMonotone decoder reconciler namespaces plugin
      config := by
  constructor
  case negotiated_iff =>
    intro command session
    rw [reached_iff]
    exact negotiate_result_iff session
  case called_iff =>
    intro handlers command args session hSet hConfig
    rw [← hConfig]
    exact mem_calls_iff_reached handlers args session hSet
  case check_of_gc =>
    intro hReached
    rw [reached_iff] at hReached ⊢
    exact passes_check_of_gc hReached
  case add_of_check =>
    intro hReached
    rw [reached_iff] at hReached ⊢
    exact agrees_of_check hReached
  case del_of_check =>
    intro hReached
    rw [reached_iff] at hReached ⊢
    exact agrees_of_check hReached
  case extended =>
    intro other command hExtends hReached
    rw [reached_iff] at hReached ⊢
    exact hExtends.passes hReached

/- A newer entry in front takes the place of an older one. -/
example :
    Extends [⟨"0.4.0"⟩, ⟨"x"⟩]
      [⟨"1.1.0"⟩, ⟨"0.4.0"⟩, ⟨"0.1.0"⟩, ⟨"x"⟩] :=
  .insert (by decide +kernel)
    (.keep _ (.insert (by decide +kernel) (.keep _ .nil)))

end Negotiation

end NetPlugin
