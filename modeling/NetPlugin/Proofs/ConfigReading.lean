import NetPlugin.Proofs.Identifier
import NetPlugin.Proofs.Json.Documents

/-
  What is read from a configuration: its name and its
  version, each from the last member with its key.

  A member that is absent, null or empty leaves the text
  empty, one that is neither a text nor null is refused.
  Both readers begin with the same document, so that they
  fail alike where there is none.

  Main declarations:
    * `Json.Members.IsLast` and `Json.Members.Lacks`
    * `NetworkConfig.LeavesEmpty` and
      `NetworkConfig.IsMistyped`
    * `NetworkConfig.TextCourse`
    * `NetworkConfig.ReadsMembers`
    * `NetworkConfig.ReadsLastMembers`
    * `NetworkConfig.reads_last_members`
-/

------------------------------------------------------------
-- Last Members
------------------------------------------------------------

namespace NetPlugin

namespace Json

namespace Members

/- The last member with a key has a value. -/
def IsLast
    (members : Members)
    (key : String)
    (value : Value) : Prop :=
  ∃ before after,
    members = before ++ (key, value) :: after ∧
      ∀ member ∈ after, member.1 ≠ key

/- No member has a key. -/
def Lacks
    (members : Members)
    (key : String) : Prop :=
  ∀ member ∈ members, member.1 ≠ key

/- What is found is the value of the last member. -/
theorem last?_eq_some_iff
    (members : Members)
    (key : String)
    (value : Value) :
    last? members key = some value ↔
      members.IsLast key value := by
  constructor
  · intro hLast
    induction members with
    | nil => cases hLast
    | cons member rest ih =>
        rcases member with ⟨name, first⟩
        rw [last?] at hLast
        cases hRest : last? rest key with
        | some found =>
            rw [hRest] at hLast
            cases hLast
            rcases ih hRest with
              ⟨before, after, rfl, hAfter⟩
            exact
              ⟨(name, first) :: before, after, rfl, hAfter⟩
        | none =>
            rw [hRest] at hLast
            simp only at hLast
            split at hLast
            · rename_i hName
              cases hLast
              rw [hName]
              exact
                ⟨[], rest, rfl,
                  (last?_eq_none_iff rest key).1 hRest⟩
            · cases hLast
  · rintro ⟨before, after, rfl, hAfter⟩
    have hLater := (last?_eq_none_iff after key).2 hAfter
    rw [last?_append, last?, hLater]
    simp

end Members

end Json

namespace NetworkConfig

variable {members : Json.Members}

/- A member that is absent, null or empty. -/
def LeavesEmpty
    (members : Json.Members)
    (key : String) : Prop :=
  members.Lacks key ∨ members.IsLast key .null ∨
    members.IsLast key (.string "")

/- A member that is neither a text nor null. -/
def IsMistyped
    (members : Json.Members)
    (key : String)
    (value : Json.Value) : Prop :=
  members.IsLast key value ∧ value ≠ .null ∧
    ∀ text, value ≠ .string text

------------------------------------------------------------
-- Texts
------------------------------------------------------------

theorem memberText_of_isLast
    {key text : String}
    (hLast : members.IsLast key (.string text)) :
    memberText members key = .ok text := by
  rw [← Json.Members.last?_eq_some_iff] at hLast
  rw [memberText, hLast]

theorem memberText_of_leavesEmpty
    {key : String}
    (hEmpty : LeavesEmpty members key) :
    memberText members key = .ok "" := by
  rcases hEmpty with hLacks | hNull | hText
  · rw [memberText,
      (Json.Members.last?_eq_none_iff _ _).2 hLacks]
  · rw [← Json.Members.last?_eq_some_iff] at hNull
    rw [memberText, hNull]
  · exact memberText_of_isLast hText

theorem memberText_of_isMistyped
    {key : String}
    {value : Json.Value}
    (hMistyped : IsMistyped members key value) :
    memberText members key =
      .error (.notText key value) := by
  rcases hMistyped with ⟨hLast, hNull, hText⟩
  rw [← Json.Members.last?_eq_some_iff] at hLast
  rw [memberText, hLast]
  cases value with
  | null => exact absurd rfl hNull
  | string text => exact absurd rfl (hText text)
  | _ => rfl

/- How the text of a key is read. -/
inductive TextCourse
    (members : Json.Members)
    (key : String) : Except Fault String → Prop
  | given
      {text : String}
      (hSet : text ≠ "")
      (hLast : members.IsLast key (.string text)) :
      TextCourse members key (.ok text)
  | empty
      (hEmpty : LeavesEmpty members key) :
      TextCourse members key (.ok "")
  | mistyped
      {value : Json.Value}
      (hMistyped : IsMistyped members key value) :
      TextCourse members key (.error (.notText key value))

theorem memberText_course
    (members : Json.Members)
    (key : String) :
    TextCourse members key (memberText members key) := by
  unfold memberText
  cases hFound : members.last? key with
  | none =>
      have hLacks :=
        (Json.Members.last?_eq_none_iff _ _).1 hFound
      exact .empty (Or.inl hLacks)
  | some value =>
      have hLast :=
        (Json.Members.last?_eq_some_iff _ _ _).1 hFound
      cases value with
      | null => exact .empty (Or.inr (Or.inl hLast))
      | string text =>
          by_cases hSet : text = ""
          · subst hSet
            exact .empty (Or.inr (Or.inr hLast))
          · exact .given hSet hLast
      | _ => exact .mistyped ⟨hLast, nofun, nofun⟩

/- Where texts are read from the members of a document. -/
def TextsFrom
    (members : Json.Members)
    (config : Bytes) : Prop :=
  ∀ key, textOf config key = memberText members key

theorem textsFrom_object
    {config : Bytes}
    (hDocument :
      Json.DocumentText (.object members) config) :
    TextsFrom members config := by
  rw [← Json.Value.ofBytes_eq_ok_iff] at hDocument
  intro key
  rw [textOf, NetworkConfig.members, hDocument]

/- The document null has no members. -/
theorem textsFrom_null
    {config : Bytes}
    (hDocument : Json.DocumentText .null config) :
    TextsFrom [] config := by
  rw [← Json.Value.ofBytes_eq_ok_iff] at hDocument
  intro key
  rw [textOf, NetworkConfig.members, hDocument]

------------------------------------------------------------
-- Name and Version
------------------------------------------------------------

/-
  What the members of a document come to.  The name decides
  the check, and the version is the one that is declared.
-/
structure ReadsMembers
    (members : Json.Members)
    (config : Bytes) : Prop where
  name_accepted :
    check config = .ok () ↔
      ∃ name,
        members.IsLast "name" (.string name) ∧
          Identifier.IsName name
  name_missing :
    check config =
        .error
          { code := .invalidNetworkConfig
            message := "missing network name" } ↔
      LeavesEmpty members "name"
  name_invalid :
    ∀ name,
      check config =
          .error
            { code := .invalidNetworkConfig
              message :=
                "invalid characters found in network name"
              details := name } ↔
        members.IsLast "name" (.string name) ∧
          name ≠ "" ∧ ¬ Identifier.IsName name
  name_mistyped :
    ∀ value,
      IsMistyped members "name" value →
      check config =
        .error
          { code := .decodingFailure
            message :=
              "error unmarshall network config: " ++
                ("name must be a string, got " ++
                  value.shown) }
  version_declared :
    ∀ text,
      members.IsLast "cniVersion" (.string text) →
      text ≠ "" →
      version config = .ok ⟨text⟩
  version_implied :
    LeavesEmpty members "cniVersion" →
    version config = .ok ⟨"0.1.0"⟩
  version_mistyped :
    ∀ value,
      IsMistyped members "cniVersion" value →
      version config =
        .error
          (.config
            ("cniVersion must be a string, got " ++
              value.shown))

/- A text that is no name is refused by its characters. -/
theorem checkNetworkName_eq
    {name : String}
    (hSet : name ≠ "") :
    Identifier.checkNetworkName name =
      if Identifier.IsName name then .ok ()
      else
        .error
          (Identifier.Fault.badNetworkName name).toError := by
  unfold Identifier.checkNetworkName
    Identifier.networkNameFault?
  rw [if_neg hSet]
  split <;> rfl

theorem nameless_ne_badNetworkName (name : String) :
    nameless ≠
      (Identifier.Fault.badNetworkName name).toError := by
  simp [nameless, Identifier.Fault.toError]

theorem isName_ne_empty
    {name : String}
    (hName : Identifier.IsName name) :
    name ≠ "" := by
  rintro rfl
  exact absurd hName (by decide)

/- How the check comes to its result. -/
inductive NameCourse
    (members : Json.Members) :
    Except PluginError Unit → Prop
  | accepted
      {name : String}
      (hLast : members.IsLast nameKey (.string name))
      (hName : Identifier.IsName name) :
      NameCourse members (.ok ())
  | invalid
      {name : String}
      (hLast : members.IsLast nameKey (.string name))
      (hSet : name ≠ "")
      (hName : ¬ Identifier.IsName name) :
      NameCourse members
        (.error
          (Identifier.Fault.badNetworkName name).toError)
  | missing
      (hEmpty : LeavesEmpty members nameKey) :
      NameCourse members (.error nameless)
  | mistyped
      {value : Json.Value}
      (hMistyped : IsMistyped members nameKey value) :
      NameCourse members
        (.error (undecodable (.notText nameKey value)))

theorem TextsFrom.nameCourse
    {config : Bytes}
    (hTexts : TextsFrom members config) :
    NameCourse members (check config) := by
  have hCourse := memberText_course members nameKey
  unfold check
  rw [hTexts nameKey]
  generalize memberText members nameKey = result at hCourse
  cases hCourse with
  | @given name hSet hLast =>
      simp only [if_neg hSet, checkNetworkName_eq hSet]
      split
      · rename_i hName
        exact .accepted hLast hName
      · rename_i hName
        exact .invalid hLast hSet hName
  | empty hEmpty => exact .missing hEmpty
  | mistyped hMistyped => exact .mistyped hMistyped

/- A name that is given decides by its characters. -/
theorem TextsFrom.check_of_isLast
    {config : Bytes}
    (hTexts : TextsFrom members config)
    {name : String}
    (hLast : members.IsLast nameKey (.string name))
    (hSet : name ≠ "") :
    check config =
      if Identifier.IsName name then .ok ()
      else
        .error
          (Identifier.Fault.badNetworkName name).toError := by
  unfold check
  rw [hTexts nameKey, memberText_of_isLast hLast]
  simp only [if_neg hSet, checkNetworkName_eq hSet]

theorem TextsFrom.readsMembers
    {config : Bytes}
    (hTexts : TextsFrom members config) :
    ReadsMembers members config := by
  constructor
  case name_accepted =>
    constructor
    · intro hCheck
      have hCourse := hTexts.nameCourse
      rw [hCheck] at hCourse
      cases hCourse with
      | accepted hLast hName => exact ⟨_, hLast, hName⟩
    · rintro ⟨name, hLast, hName⟩
      rw [hTexts.check_of_isLast hLast
        (isName_ne_empty hName), if_pos hName]
  case name_missing =>
    constructor
    · intro hCheck
      have hCourse := hTexts.nameCourse
      rw [hCheck] at hCourse
      generalize hError :
          (Except.error _ : Except PluginError Unit) = result
        at hCourse
      cases hCourse with
      | accepted hLast hName => cases hError
      | invalid hLast hSet hName =>
          exact
            absurd (Except.error.inj hError)
              (nameless_ne_badNetworkName _)
      | missing hEmpty => exact hEmpty
      | mistyped hMistyped => cases hError
    · intro hEmpty
      have hText : memberText members nameKey = .ok "" :=
        memberText_of_leavesEmpty hEmpty
      unfold check
      rw [hTexts nameKey, hText]
      rfl
  case name_invalid =>
    intro name
    constructor
    · intro hCheck
      have hCourse := hTexts.nameCourse
      rw [hCheck] at hCourse
      generalize hError :
          (Except.error _ : Except PluginError Unit) = result
        at hCourse
      cases hCourse with
      | accepted hLast hName => cases hError
      | @invalid other hLast hSet hName =>
          have hSame : name = other :=
            congrArg PluginError.details
              (Except.error.inj hError)
          subst hSame
          exact ⟨hLast, hSet, hName⟩
      | missing hEmpty =>
          exact
            absurd (Except.error.inj hError).symm
              (nameless_ne_badNetworkName name)
      | mistyped hMistyped => cases hError
    · rintro ⟨hLast, hSet, hName⟩
      rw [hTexts.check_of_isLast hLast hSet, if_neg hName]
      rfl
  case name_mistyped =>
    intro value hMistyped
    have hText :
        memberText members nameKey =
          .error (.notText nameKey value) :=
      memberText_of_isMistyped hMistyped
    unfold check
    rw [hTexts nameKey, hText]
    rfl
  case version_declared =>
    intro text hLast hSet
    have hText : memberText members versionKey = .ok text :=
      memberText_of_isLast hLast
    unfold version
    rw [hTexts versionKey, hText]
    simp only [if_neg hSet]
  case version_implied =>
    intro hEmpty
    have hText : memberText members versionKey = .ok "" :=
      memberText_of_leavesEmpty hEmpty
    unfold version
    rw [hTexts versionKey, hText]
    rfl
  case version_mistyped =>
    intro value hMistyped
    have hText :
        memberText members versionKey =
          .error (.notText versionKey value) :=
      memberText_of_isMistyped hMistyped
    unfold version
    rw [hTexts versionKey, hText]
    rfl

/- No version is read exactly where it is mistyped. -/
theorem TextsFrom.version_eq_error_iff
    {config : Bytes}
    (hTexts : TextsFrom members config) :
    (∃ e, version config = .error e) ↔
      ∃ value, IsMistyped members versionKey value := by
  unfold version
  rw [hTexts versionKey]
  constructor
  · rintro ⟨e, hVersion⟩
    have hCourse := memberText_course members versionKey
    generalize memberText members versionKey = result
      at hCourse hVersion
    cases hCourse with
    | given hSet hLast => cases hVersion
    | empty hEmpty => cases hVersion
    | mistyped hMistyped => exact ⟨_, hMistyped⟩
  · rintro ⟨value, hMistyped⟩
    rw [memberText_of_isMistyped hMistyped]
    exact ⟨_, rfl⟩

------------------------------------------------------------
-- Documents
------------------------------------------------------------

/- What is read from any bytes. -/
structure ReadsLastMembers (config : Bytes) : Prop where
  object :
    ∀ members,
      Json.DocumentText (.object members) config →
      ReadsMembers members config
  null :
    Json.DocumentText .null config →
    ReadsMembers [] config
  other :
    ∀ value,
      Json.DocumentText value config →
      value ≠ .null →
      (∀ members, value ≠ .object members) →
      check config =
          .error
            { code := .decodingFailure
              message :=
                "error unmarshall network config: " ++
                  ("expected an object, got " ++
                    value.shown) } ∧
        version config =
          .error
            (.config
              ("expected an object, got " ++ value.shown))
  no_document :
    (∀ value, ¬ Json.DocumentText value config) →
    ∃ e : Json.ReadError,
      Json.Value.ofBytes config = .error e ∧
        check config =
          .error
            { code := .decodingFailure
              message :=
                "error unmarshall network config: " ++
                  e.message } ∧
        version config = .error (.config e.message)
  accepted :
    check config = .ok () →
    ((∃ e, version config = .error e) ↔
      ∃ members value,
        Json.DocumentText (.object members) config ∧
          IsMistyped members "cniVersion" value)

theorem exists_object_of_check
    {config : Bytes}
    (hCheck : check config = .ok ()) :
    ∃ members,
      Json.DocumentText (.object members) config := by
  rcases exists_members_of_check hCheck with
    ⟨members, hValue⟩
  exact ⟨members, (Json.Value.ofBytes_eq_ok_iff _ _).1 hValue⟩

/-
  Both readers go through the document, then the last member
  with their key.
-/
theorem reads_last_members (config : Bytes) :
    ReadsLastMembers config := by
  constructor
  case object =>
    intro members hDocument
    exact (textsFrom_object hDocument).readsMembers
  case null =>
    intro hDocument
    exact (textsFrom_null hDocument).readsMembers
  case other =>
    intro value hDocument hNull hObject
    rw [← Json.Value.ofBytes_eq_ok_iff] at hDocument
    unfold check version textOf NetworkConfig.members
    rw [hDocument]
    cases value with
    | null => exact absurd rfl hNull
    | object members => exact absurd rfl (hObject members)
    | _ => exact ⟨rfl, rfl⟩
  case no_document =>
    intro hNone
    rcases Json.Value.exists_error_of_ofBytes hNone with
      ⟨e, hError⟩
    refine ⟨e, hError, ?_, ?_⟩
    · unfold check textOf NetworkConfig.members
      rw [hError]
      rfl
    · unfold version textOf NetworkConfig.members
      rw [hError]
      rfl
  case accepted =>
    intro hCheck
    rcases exists_object_of_check hCheck with
      ⟨members, hDocument⟩
    rw [(textsFrom_object hDocument).version_eq_error_iff]
    constructor
    · rintro ⟨value, hMistyped⟩
      exact ⟨members, value, hDocument, hMistyped⟩
    · rintro ⟨others, value, hOther, hMistyped⟩
      have hSame := hDocument.unique hOther
      cases hSame
      exact ⟨value, hMistyped⟩

end NetworkConfig

end NetPlugin
