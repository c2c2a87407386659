import NetPlugin.Identifier
import NetPlugin.Proofs.Text.Utf8

/-
  The languages of identifiers.

  A container id and a network name are taken from the same
  language.  An interface name is subject to four rules, and
  it is refused for the first of them that it breaks.

  Main declarations:
    * `Identifier.InNameLanguage` and `isName_iff`
    * `Identifier.IsWhiteSpace` and `isBlank_iff`
    * `Identifier.InterfaceRule`
    * `Identifier.IsFirstBroken`
    * `Identifier.FollowsLanguages`
    * `Identifier.checks_follow_languages`
-/

------------------------------------------------------------
-- Names
------------------------------------------------------------

namespace NetPlugin

namespace Identifier

/- The letters and digits of ASCII. -/
def IsLetterOrDigit (c : Char) : Prop :=
  'A' ≤ c ∧ c ≤ 'Z' ∨ 'a' ≤ c ∧ c ≤ 'z' ∨ '0' ≤ c ∧ c ≤ '9'

/-
  A letter or digit at the beginning, and up to the end
  nothing but letters, digits and three other characters.
-/
def InNameLanguage (text : String) : Prop :=
  ∃ first rest,
    text.toList = first :: rest ∧
      IsLetterOrDigit first ∧
      ∀ c ∈ rest,
        IsLetterOrDigit c ∨ c = '_' ∨ c = '.' ∨ c = '-'

theorem isLetterOrDigit_iff_toNat (c : Char) :
    IsLetterOrDigit c ↔
      65 ≤ c.toNat ∧ c.toNat ≤ 90 ∨
        97 ≤ c.toNat ∧ c.toNat ≤ 122 ∨
        48 ≤ c.toNat ∧ c.toNat ≤ 57 := by
  unfold IsLetterOrDigit
  simp only [Char.le_def, UInt32.le_iff_toNat_le]
  exact Iff.rfl

theorem isNameStart_iff (c : Char) :
    isNameStart c = true ↔ IsLetterOrDigit c := by
  have hClass :
      isNameStart c =
        (decide ('A' ≤ c ∧ c ≤ 'Z') ||
            (decide ('a' ≤ c) && decide (c ≤ 'z')) ||
          (decide ('0' ≤ c) && decide (c ≤ '9'))) := rfl
  rw [hClass, IsLetterOrDigit]
  simp only [Bool.or_eq_true, Bool.and_eq_true,
    decide_eq_true_iff, or_assoc]

theorem isNameRest_iff (c : Char) :
    isNameRest c = true ↔
      IsLetterOrDigit c ∨ c = '_' ∨ c = '.' ∨ c = '-' := by
  unfold isNameRest
  simp only [Bool.or_eq_true, beq_iff_eq, isNameStart_iff,
    or_assoc]

theorem isName_iff (text : String) :
    IsName text ↔ InNameLanguage text := by
  unfold IsName InNameLanguage
  cases text.toList with
  | nil => simp [isNameText]
  | cons first rest =>
      rw [isNameText, Bool.and_eq_true, List.all_eq_true,
        isNameStart_iff]
      simp only [isNameRest_iff]
      constructor
      · rintro ⟨hFirst, hRest⟩
        exact ⟨first, rest, rfl, hFirst, hRest⟩
      · rintro ⟨_, _, hText, hFirst, hRest⟩
        cases hText
        exact ⟨hFirst, hRest⟩

/- A name is not empty. -/
theorem InNameLanguage.ne_empty
    {text : String}
    (hName : InNameLanguage text) :
    text ≠ "" := by
  rintro rfl
  rcases hName with ⟨first, rest, hText, _⟩
  cases hText

/- All characters of a name are those of names. -/
theorem InNameLanguage.of_mem
    {text : String}
    (hName : InNameLanguage text)
    {c : Char}
    (hMem : c ∈ text.toList) :
    IsLetterOrDigit c ∨ c = '_' ∨ c = '.' ∨ c = '-' := by
  rcases hName with ⟨first, rest, hText, hFirst, hRest⟩
  rw [hText] at hMem
  rcases List.mem_cons.1 hMem with rfl | hLater
  · exact Or.inl hFirst
  · exact hRest c hLater

/- A line feed is none of them, wherever it stands. -/
theorem not_inNameLanguage_lineFeed (text : String) :
    ¬ InNameLanguage (text ++ "\n") := by
  intro hName
  have hLineFeed : '\n' ∈ (text ++ "\n").toList := by
    rw [String.toList_append]
    exact List.mem_append_right _ (List.mem_singleton_self _)
  have hClass := hName.of_mem hLineFeed
  unfold IsLetterOrDigit at hClass
  exact absurd hClass (by decide)

------------------------------------------------------------
-- White Space
------------------------------------------------------------

/- The code points of white space, one by one. -/
def whiteSpacePoints : List Nat :=
  [0x9, 0xA, 0xB, 0xC, 0xD, 0x20, 0x85, 0xA0, 0x1680, 0x2000,
    0x2001, 0x2002, 0x2003, 0x2004, 0x2005, 0x2006, 0x2007,
    0x2008, 0x2009, 0x200A, 0x2028, 0x2029, 0x202F, 0x205F,
    0x3000]

/- Whether a character is one of them. -/
def IsWhiteSpace (c : Char) : Prop :=
  c.toNat ∈ whiteSpacePoints

instance (c : Char) : Decidable (IsWhiteSpace c) := by
  unfold IsWhiteSpace
  infer_instance

theorem isBlank_iff (c : Char) :
    Text.isBlank c = true ↔ IsWhiteSpace c := by
  have hIncreasing :
      Text.Ranges.Increasing Text.whiteSpace := by
    simp [Text.Ranges.Increasing, Text.whiteSpace]
  unfold Text.isBlank IsWhiteSpace
  rw [Text.Ranges.contains_iff hIncreasing]
  simp only [Text.whiteSpace, whiteSpacePoints,
    List.mem_cons, List.not_mem_nil, or_false,
    exists_eq_or_imp, exists_eq_left]
  omega

theorem isBannedInInterface_iff (c : Char) :
    isBannedInInterface c = true ↔
      c = '/' ∨ c = ':' ∨ IsWhiteSpace c := by
  unfold isBannedInInterface
  simp only [Bool.or_eq_true, beq_iff_eq, isBlank_iff,
    or_assoc]

/- None of these is in a name. -/
theorem InNameLanguage.not_isBanned
    {text : String}
    (hName : InNameLanguage text)
    {c : Char}
    (hMem : c ∈ text.toList) :
    ¬ (c = '/' ∨ c = ':' ∨ IsWhiteSpace c) := by
  rcases hName.of_mem hMem with hAscii | rfl | rfl | rfl
  · rw [isLetterOrDigit_iff_toNat] at hAscii
    rintro (rfl | rfl | hBlank)
    · exact absurd hAscii (by decide)
    · exact absurd hAscii (by decide)
    · unfold IsWhiteSpace whiteSpacePoints at hBlank
      simp only [List.mem_cons, List.not_mem_nil, or_false]
        at hBlank
      omega
  all_goals decide

------------------------------------------------------------
-- Rules of Interface Names
------------------------------------------------------------

/- What an interface name can be refused for. -/
inductive InterfaceRule where
  | empty
  | tooLong
  | dots
  | characters
  deriving DecidableEq, Repr

namespace InterfaceRule

/- The rules, in the order in which they are tried. -/
def all : List InterfaceRule :=
  [.empty, .tooLong, .dots, .characters]

/- Whether a name breaks a rule. -/
def IsBroken (name : String) : InterfaceRule → Prop
  | .empty => name = ""
  | .tooLong => 15 < name.utf8ByteSize
  | .dots => name = "." ∨ name = ".."
  | .characters =>
      ∃ c ∈ name.toList, c = '/' ∨ c = ':' ∨ IsWhiteSpace c

instance (name : String) :
    (rule : InterfaceRule) → Decidable (rule.IsBroken name)
  | .empty => inferInstanceAs (Decidable (name = ""))
  | .tooLong =>
      inferInstanceAs (Decidable (15 < name.utf8ByteSize))
  | .dots =>
      inferInstanceAs (Decidable (name = "." ∨ name = ".."))
  | .characters =>
      inferInstanceAs
        (Decidable
          (∃ c ∈ name.toList,
            c = '/' ∨ c = ':' ∨ IsWhiteSpace c))

/- The fault that a broken rule is reported as. -/
def fault : InterfaceRule → Fault
  | .empty => .emptyInterfaceName
  | .tooLong => .longInterfaceName
  | .dots => .dottedInterfaceName
  | .characters => .badInterfaceName

/- The error that a broken rule is reported as. -/
def error : InterfaceRule → PluginError
  | .empty =>
      { code := .invalidEnvironment
        message := "interface name is empty"
        details := "" }
  | .tooLong =>
      { code := .invalidEnvironment
        message := "interface name is too long"
        details :=
          "interface name should be less than 16 characters" }
  | .dots =>
      { code := .invalidEnvironment
        message := "interface name is . or .."
        details := "" }
  | .characters =>
      { code := .invalidEnvironment
        message :=
          "interface name contains / or : or " ++
            "whitespace characters"
        details := "" }

theorem toError_fault (rule : InterfaceRule) :
    rule.fault.toError = rule.error := by
  cases rule <;> decide +kernel

theorem mem_all (rule : InterfaceRule) : rule ∈ all := by
  cases rule <;> simp [all]

end InterfaceRule

/- A name breaks a rule, and none of those before it. -/
def IsFirstBroken
    (name : String)
    (rule : InterfaceRule) : Prop :=
  ∃ before after,
    InterfaceRule.all = before ++ rule :: after ∧
      (∀ earlier ∈ before, ¬ earlier.IsBroken name) ∧
      rule.IsBroken name

/- A rule that is broken is reported before the others. -/
theorem find?_isBroken_cons
    (name : String)
    (rule : InterfaceRule)
    (rules : List InterfaceRule) :
    ((rule :: rules).find? fun other =>
        decide (other.IsBroken name)).map
          InterfaceRule.fault =
      if rule.IsBroken name then some rule.fault
      else
        (rules.find? fun other =>
          decide (other.IsBroken name)).map
            InterfaceRule.fault := by
  rw [List.find?_cons]
  by_cases hBroken : rule.IsBroken name
  · rw [decide_eq_true hBroken, if_pos hBroken]
    rfl
  · rw [decide_eq_false hBroken, if_neg hBroken]

/- The check goes through the rules one after the other. -/
theorem interfaceNameFault?_eq (name : String) :
    interfaceNameFault? name =
      (InterfaceRule.all.find? fun rule =>
        decide (rule.IsBroken name)).map
          InterfaceRule.fault := by
  have hLong :
      interfaceNameLimit < (Utf8.encode name).length ↔
        InterfaceRule.tooLong.IsBroken name := by
    rw [Utf8.length_encode]
    rfl
  have hCharacters :
      name.toList.any isBannedInInterface = true ↔
        InterfaceRule.characters.IsBroken name := by
    simp only [List.any_eq_true, isBannedInInterface_iff]
    rfl
  unfold interfaceNameFault? InterfaceRule.all
  simp only [hLong, hCharacters, find?_isBroken_cons]
  rfl

/- A name is refused for the first rule that it breaks. -/
theorem checkInterfaceName_eq_error_iff
    (name : String)
    (e : PluginError) :
    checkInterfaceName name = .error e ↔
      ∃ rule,
        IsFirstBroken name rule ∧ e = rule.error := by
  have hFirst :
      ∀ rule,
        (InterfaceRule.all.find? fun rule =>
            decide (rule.IsBroken name)) = some rule ↔
          IsFirstBroken name rule := by
    intro rule
    rw [List.find?_eq_some_iff_append]
    simp only [decide_eq_true_iff, Bool.not_eq_true',
      decide_eq_false_iff_not]
    constructor
    · rintro ⟨hBroken, before, after, hAll, hBefore⟩
      exact ⟨before, after, hAll, hBefore, hBroken⟩
    · rintro ⟨before, after, hAll, hBefore, hBroken⟩
      exact ⟨hBroken, before, after, hAll, hBefore⟩
  unfold checkInterfaceName
  rw [interfaceNameFault?_eq]
  simp only [← hFirst, ← InterfaceRule.toError_fault]
  cases InterfaceRule.all.find? fun rule =>
      decide (rule.IsBroken name) with
  | none => simp [refuse]
  | some rule => simp [refuse, eq_comm]

/- A name is accepted if it breaks no rule. -/
theorem checkInterfaceName_eq_ok_iff (name : String) :
    checkInterfaceName name = .ok () ↔
      ∀ rule : InterfaceRule, ¬ rule.IsBroken name := by
  unfold checkInterfaceName
  rw [interfaceNameFault?_eq]
  cases hFind :
      InterfaceRule.all.find? fun rule =>
        decide (rule.IsBroken name) with
  | none =>
      rw [List.find?_eq_none] at hFind
      simp only [decide_eq_true_iff] at hFind
      exact
        iff_of_true rfl fun rule => hFind rule rule.mem_all
  | some rule =>
      have hBroken := List.find?_some hFind
      rw [decide_eq_true_iff] at hBroken
      exact iff_of_false (by simp [refuse]) (· rule hBroken)

/- What a name is like that breaks no rule. -/
theorem not_isBroken_iff (name : String) :
    (∀ rule : InterfaceRule, ¬ rule.IsBroken name) ↔
      1 ≤ name.utf8ByteSize ∧ name.utf8ByteSize ≤ 15 ∧
        name ≠ "." ∧ name ≠ ".." ∧
        ∀ c ∈ name.toList,
          c ≠ '/' ∧ c ≠ ':' ∧ ¬ IsWhiteSpace c := by
  have hEmpty : name = "" ↔ ¬ 1 ≤ name.utf8ByteSize := by
    rw [← String.utf8ByteSize_eq_zero_iff]
    omega
  constructor
  · intro hKept
    have hLeast : 1 ≤ name.utf8ByteSize :=
      Decidable.not_not.1 (mt hEmpty.2 (hKept .empty))
    have hDots := not_or.1 (hKept .dots)
    refine
      ⟨hLeast, Nat.not_lt.1 (hKept .tooLong), hDots.1,
        hDots.2, ?_⟩
    intro c hMem
    have hAllowed :
        ¬ (c = '/' ∨ c = ':' ∨ IsWhiteSpace c) :=
      fun hBanned => hKept .characters ⟨c, hMem, hBanned⟩
    rwa [not_or, not_or] at hAllowed
  · rintro ⟨hLeast, hMost, hDot, hTwoDots, hAllowed⟩ rule
    cases rule with
    | empty => exact fun hNone => hEmpty.1 hNone hLeast
    | tooLong => exact Nat.not_lt.2 hMost
    | dots => exact not_or.2 ⟨hDot, hTwoDots⟩
    | characters =>
        rintro ⟨c, hMem, hBanned⟩
        rcases hAllowed c hMem with ⟨hSlash, hColon, hBlank⟩
        rcases hBanned with hIs | hIs | hIs
        · exact hSlash hIs
        · exact hColon hIs
        · exact hBlank hIs

------------------------------------------------------------
-- Languages
------------------------------------------------------------

/- An identifier that is a name breaks at most one rule. -/
theorem InNameLanguage.isBroken
    {text : String}
    (hName : InNameLanguage text)
    {rule : InterfaceRule}
    (hBroken : rule.IsBroken text) :
    rule = .tooLong := by
  cases rule with
  | empty => exact absurd hBroken hName.ne_empty
  | tooLong => rfl
  | dots =>
      rcases hName with ⟨first, rest, hText, hFirst, _⟩
      have hDot : first = '.' := by
        rcases hBroken with rfl | rfl <;>
          exact (List.cons.inj hText).1.symm
      rw [hDot] at hFirst
      unfold IsLetterOrDigit at hFirst
      exact absurd hFirst (by decide)
  | characters =>
      rcases hBroken with ⟨c, hMem, hBanned⟩
      exact absurd hBanned (hName.not_isBanned hMem)

/-
  The fault of a text that has to be a name: one for the
  empty text, and one for its characters.
-/
def nameFault?
    (empty bad : Fault)
    (text : String) : Option Fault :=
  if text = "" then some empty
  else if IsName text then none
  else some bad

theorem refuse_nameFault?_eq_ok_iff
    (empty bad : Fault)
    (text : String) :
    refuse (nameFault? empty bad text) = .ok () ↔
      InNameLanguage text := by
  unfold nameFault?
  rw [← isName_iff]
  by_cases hEmpty : text = ""
  · subst hEmpty
    exact iff_of_false (by simp [refuse]) (by decide)
  · rw [if_neg hEmpty]
    split <;> simp [refuse, *]

/- What is no name is refused for its characters. -/
theorem refuse_nameFault?_eq_error
    (empty bad : Fault)
    {text : String}
    (hSome : text ≠ "")
    (hNot : ¬ InNameLanguage text) :
    refuse (nameFault? empty bad text) =
      .error bad.toError := by
  rw [← isName_iff] at hNot
  rw [nameFault?, if_neg hSome, if_neg hNot]
  rfl

/- Container ids and network names are such texts. -/
theorem containerIdFault?_eq (id : String) :
    containerIdFault? id =
      nameFault? .emptyContainerId (.badContainerId id) id :=
  rfl

theorem networkNameFault?_eq (name : String) :
    networkNameFault? name =
      nameFault? .emptyNetworkName (.badNetworkName name)
        name :=
  rfl

theorem checkContainerId_eq_ok_iff (id : String) :
    checkContainerId id = .ok () ↔ InNameLanguage id := by
  rw [checkContainerId, containerIdFault?_eq,
    refuse_nameFault?_eq_ok_iff]

theorem checkContainerId_of_not_inNameLanguage
    {id : String}
    (hSome : id ≠ "")
    (hNot : ¬ InNameLanguage id) :
    checkContainerId id =
      .error (Fault.badContainerId id).toError := by
  rw [checkContainerId, containerIdFault?_eq,
    refuse_nameFault?_eq_error _ _ hSome hNot]

theorem checkNetworkName_eq_ok_iff (name : String) :
    checkNetworkName name = .ok () ↔
      InNameLanguage name := by
  rw [checkNetworkName, networkNameFault?_eq,
    refuse_nameFault?_eq_ok_iff]

theorem checkNetworkName_of_not_inNameLanguage
    {name : String}
    (hSome : name ≠ "")
    (hNot : ¬ InNameLanguage name) :
    checkNetworkName name =
      .error (Fault.badNetworkName name).toError := by
  rw [checkNetworkName, networkNameFault?_eq,
    refuse_nameFault?_eq_error _ _ hSome hNot]

/-
  How the three checks judge a text: which texts each of
  them accepts, and what the others are refused with.
-/
structure FollowsLanguages (text : String) : Prop where
  containerId_iff :
    checkContainerId text = .ok () ↔ InNameLanguage text
  networkName_iff :
    checkNetworkName text = .ok () ↔ InNameLanguage text
  containerId_refused :
    text ≠ "" → ¬ InNameLanguage text →
      checkContainerId text =
        .error
          { code := .invalidEnvironment
            message := "invalid characters in containerID"
            details := text }
  networkName_refused :
    text ≠ "" → ¬ InNameLanguage text →
      checkNetworkName text =
        .error
          { code := .invalidNetworkConfig
            message :=
              "invalid characters found in network name"
            details := text }
  lineFeed_refused :
    checkContainerId (text ++ "\n") ≠ .ok () ∧
      checkNetworkName (text ++ "\n") ≠ .ok ()
  interfaceName_iff :
    checkInterfaceName text = .ok () ↔
      1 ≤ text.utf8ByteSize ∧ text.utf8ByteSize ≤ 15 ∧
        text ≠ "." ∧ text ≠ ".." ∧
        ∀ c ∈ text.toList,
          c ≠ '/' ∧ c ≠ ':' ∧ ¬ IsWhiteSpace c
  interfaceName_error_iff :
    ∀ e,
      checkInterfaceName text = .error e ↔
        ∃ rule,
          IsFirstBroken text rule ∧ e = rule.error
  interfaceName_of_containerId :
    checkContainerId text = .ok () →
      text.utf8ByteSize ≤ 15 →
        checkInterfaceName text = .ok ()

/- Every text is judged as its languages say. -/
theorem checks_follow_languages (text : String) :
    FollowsLanguages text := by
  constructor
  case containerId_iff =>
    exact checkContainerId_eq_ok_iff text
  case networkName_iff =>
    exact checkNetworkName_eq_ok_iff text
  case containerId_refused =>
    exact checkContainerId_of_not_inNameLanguage
  case networkName_refused =>
    exact checkNetworkName_of_not_inNameLanguage
  case lineFeed_refused =>
    rw [ne_eq, checkContainerId_eq_ok_iff, ne_eq,
      checkNetworkName_eq_ok_iff]
    exact
      ⟨not_inNameLanguage_lineFeed text,
        not_inNameLanguage_lineFeed text⟩
  case interfaceName_iff =>
    rw [checkInterfaceName_eq_ok_iff]
    exact not_isBroken_iff text
  case interfaceName_error_iff =>
    exact checkInterfaceName_eq_error_iff text
  case interfaceName_of_containerId =>
    rw [checkContainerId_eq_ok_iff,
      checkInterfaceName_eq_ok_iff]
    intro hName hShort rule hBroken
    rw [hName.isBroken hBroken] at hBroken
    exact absurd hShort (Nat.not_le.2 hBroken)

end Identifier

end NetPlugin
