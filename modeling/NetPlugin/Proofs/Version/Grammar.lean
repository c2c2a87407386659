import Mathlib.Data.List.Forall2
import NetPlugin.Version.Token

/-
  The grammar of version tokens.

  A token consists of one to three numerals with points
  between them, unless it is empty.  A numeral is at least
  one decimal digit, behind a plus or without one, and its
  value has 64 bits at most.  Too many parts are reported
  before anything that is wrong with one of them, and of
  these the leftmost one is.

  Main declarations:
    * `Version.IsNumeral` and `partValue?_eq_some_iff`
    * `Version.partValues` and `Token.triple_eq_partValues`
    * `Version.Token.IsRefused`
    * `Version.Token.FollowsGrammar`
    * `Version.Token.triple_follows_grammar`
-/

------------------------------------------------------------
-- Numerals
------------------------------------------------------------

namespace NetPlugin

namespace Version

/-
  The number of 64 bits that a part is written for: digits,
  of which there may be any number of leading zeros, behind
  a plus or without one.
-/
def IsNumeral
    (text : List Char)
    (n : Nat) : Prop :=
  ∃ digits,
    (text = digits ∨ text = '+' :: digits) ∧
      digits ≠ [] ∧
      (∀ c ∈ digits, '0' ≤ c ∧ c ≤ '9') ∧
      Nat.ofDigitChars 10 digits 0 = n ∧
      n < UInt64.size

theorem digitsValue_eq_ofDigitChars (digits : List Char) :
    digitsValue digits = Nat.ofDigitChars 10 digits 0 := by
  unfold digitsValue
  rw [Nat.ofDigitChars_eq_foldl]
  simp only [Nat.mul_comm]
  rfl

theorem isDigit_iff (c : Char) :
    c.isDigit = true ↔ '0' ≤ c ∧ c ≤ '9' := by
  rw [Char.isDigit_iff_toNat, Char.le_def, Char.le_def]
  exact Iff.rfl

/- A plus is left out once, and digits never are. -/
theorem partDigits_eq_iff
    {text digits : List Char}
    (hDigits : ∀ c ∈ digits, '0' ≤ c ∧ c ≤ '9') :
    partDigits text = digits ↔
      text = digits ∨ text = '+' :: digits := by
  have hNoPlus : ∀ rest, digits ≠ '+' :: rest := by
    rintro rest rfl
    exact absurd (hDigits '+' (by simp)) (by decide)
  cases text with
  | nil => simp [partDigits]
  | cons c rest =>
      by_cases hPlus : c = '+'
      · subst hPlus
        simp [partDigits, (hNoPlus rest).symm]
      · simp [partDigits, hPlus]

/- The number of a part is that of its numeral. -/
theorem partValue?_eq_some_iff
    (text : List Char)
    (value : UInt64) :
    partValue? text = some value ↔
      IsNumeral text value.toNat := by
  unfold partValue? IsNumeral
  dsimp only
  rw [digitsValue_eq_ofDigitChars]
  constructor
  · intro hValue
    split at hValue
    next hForm =>
      rw [List.all_eq_true] at hForm
      simp only [isDigit_iff] at hForm
      split at hValue
      next hFits =>
        cases hValue
        rw [UInt64.toNat_ofNatLT]
        exact
          ⟨partDigits text, (partDigits_eq_iff hForm.2).1 rfl,
            hForm.1, hForm.2, rfl, hFits⟩
      next => cases hValue
    next => cases hValue
  · rintro ⟨digits, hText, hSome, hDigits, hValue, _⟩
    have hForm : digits.all Char.isDigit = true := by
      rw [List.all_eq_true]
      simpa only [isDigit_iff] using hDigits
    have hFits :
        Nat.ofDigitChars 10 digits 0 < UInt64.size := by
      rw [hValue]
      exact value.toNat_lt_size
    rw [(partDigits_eq_iff hDigits).2 hText,
      if_pos ⟨hSome, hForm⟩, dif_pos hFits, Option.some_inj,
      ← UInt64.toNat_inj, UInt64.toNat_ofNatLT]
    exact hValue

/- The number of a numeral fits. -/
theorem IsNumeral.toNat_ofNat
    {text : List Char}
    {n : Nat}
    (hNumeral : IsNumeral text n) :
    (UInt64.ofNat n).toNat = n := by
  rcases hNumeral with ⟨_, _, _, _, _, hFits⟩
  exact UInt64.toNat_ofNat_of_lt hFits

------------------------------------------------------------
-- Parts
------------------------------------------------------------

theorem partValue_eq_ok_iff
    (part : Part)
    (text : List Char)
    (value : UInt64) :
    partValue part text = .ok value ↔
      IsNumeral text value.toNat := by
  rw [← partValue?_eq_some_iff]
  unfold partValue
  cases partValue? text <;> simp

/- A part that is no numeral is reported as it is. -/
theorem partValue_eq_error_iff
    (part : Part)
    (text : List Char)
    (e : VersionError) :
    partValue part text = .error e ↔
      (∀ n, ¬ IsNumeral text n) ∧
        e = .invalidPart part (String.ofList text) := by
  cases hPart : partValue? text with
  | some value =>
      have hNumeral := (partValue?_eq_some_iff _ _).1 hPart
      have hNot : ¬ ∀ n, ¬ IsNumeral text n :=
        fun hNone => hNone _ hNumeral
      simp [partValue, hPart, hNot]
  | none =>
      have hNone : ∀ n, ¬ IsNumeral text n := by
        intro n hNumeral
        have hNumber := hNumeral
        rw [← hNumeral.toNat_ofNat,
          ← partValue?_eq_some_iff, hPart] at hNumber
        cases hNumber
      simp [partValue, hPart, hNone, eq_comm]

/- The numbers of parts, up to the first invalid one. -/
def partValues :
    List Part →
    List (List Char) →
    Except VersionError (List UInt64)
  | part :: places, text :: rest => do
      let value ← partValue part text
      let values ← partValues places rest
      pure (value :: values)
  | _, _ => pure []

/-
  The leftmost part that is no numeral, and the place that
  it is in.
-/
def IsLeftmostInvalid
    (places : List Part)
    (parts : List (List Char))
    (e : VersionError) : Prop :=
  ∃ before text after place,
    parts = before ++ text :: after ∧
      (∀ part ∈ before, ∃ n, IsNumeral part n) ∧
      (∀ n, ¬ IsNumeral text n) ∧
      places[before.length]? = some place ∧
      e = .invalidPart place (String.ofList text)

theorem partValues_cons
    (part : Part)
    (places : List Part)
    (text : List Char)
    (rest : List (List Char)) :
    partValues (part :: places) (text :: rest) =
      match partValue part text, partValues places rest with
      | .error e, _ => .error e
      | .ok _, .error e => .error e
      | .ok value, .ok values => .ok (value :: values) := by
  rw [partValues]
  cases partValue part text with
  | error e => rfl
  | ok value => cases partValues places rest <;> rfl

/- All parts have numbers, and they are read in order. -/
theorem partValues_eq_ok_iff
    {places : List Part}
    {parts : List (List Char)}
    (hPlaces : parts.length ≤ places.length)
    (values : List UInt64) :
    partValues places parts = .ok values ↔
      List.Forall₂ IsNumeral parts
        (values.map UInt64.toNat) := by
  induction parts generalizing places values with
  | nil =>
      cases values <;> cases places <;>
        simp [partValues, pure, Except.pure]
  | cons text rest ih =>
      cases places with
      | nil => cases hPlaces
      | cons part places =>
          have hRest := ih (Nat.le_of_succ_le_succ hPlaces)
          rw [partValues_cons]
          cases values with
          | nil =>
              cases partValue part text <;>
                cases partValues places rest <;> simp
          | cons value values =>
              rw [List.map_cons, List.forall₂_cons, ← hRest,
                ← partValue_eq_ok_iff part]
              cases partValue part text with
              | error e => simp
              | ok read => cases partValues places rest <;> simp

theorem isLeftmostInvalid_cons
    (place : Part)
    (places : List Part)
    (text : List Char)
    (rest : List (List Char))
    (e : VersionError) :
    IsLeftmostInvalid (place :: places) (text :: rest) e ↔
      ((∀ n, ¬ IsNumeral text n) ∧
          e = .invalidPart place (String.ofList text)) ∨
        (∃ n, IsNumeral text n) ∧
          IsLeftmostInvalid places rest e := by
  constructor
  · rintro
      ⟨before, invalid, after, found, hParts, hBefore,
        hInvalid, hPlace, hError⟩
    cases before with
    | nil =>
        cases hParts
        cases hPlace
        exact Or.inl ⟨hInvalid, hError⟩
    | cons first more =>
        cases hParts
        rw [List.forall_mem_cons] at hBefore
        exact
          Or.inr
            ⟨hBefore.1, more, invalid, after, found, rfl,
              hBefore.2, hInvalid, hPlace, hError⟩
  · rintro
      (⟨hInvalid, hError⟩ |
        ⟨hText, before, invalid, after, found, rfl, hBefore,
          hInvalid, hPlace, hError⟩)
    · exact
        ⟨[], text, rest, place, rfl, by simp, hInvalid, rfl,
          hError⟩
    · exact
        ⟨text :: before, invalid, after, found, rfl,
          List.forall_mem_cons.2 ⟨hText, hBefore⟩, hInvalid,
          hPlace, hError⟩

/- What is wrong with a part hides what follows it. -/
theorem partValues_eq_error_iff
    {places : List Part}
    {parts : List (List Char)}
    (hPlaces : parts.length ≤ places.length)
    (e : VersionError) :
    partValues places parts = .error e ↔
      IsLeftmostInvalid places parts e := by
  induction parts generalizing places with
  | nil =>
      cases places <;>
        simp [partValues, pure, Except.pure,
          IsLeftmostInvalid]
  | cons text rest ih =>
      cases places with
      | nil => cases hPlaces
      | cons place places =>
          have hRest := ih (Nat.le_of_succ_le_succ hPlaces)
          rw [partValues_cons, isLeftmostInvalid_cons,
            ← hRest, ← partValue_eq_error_iff]
          cases hText : partValue place text with
          | error other =>
              have hInvalid :=
                (partValue_eq_error_iff _ _ _).1 hText
              simp [hInvalid.1]
          | ok value =>
              have hNumeral : ∃ n, IsNumeral text n :=
                ⟨_, (partValue_eq_ok_iff _ _ _).1 hText⟩
              cases partValues places rest <;> simp [hNumeral]

------------------------------------------------------------
-- Tokens
------------------------------------------------------------

/- The numbers that are given, and zeros for the others. -/
def Triple.Pads
    (a : Triple)
    (numbers : List Nat) : Prop :=
  [a.major.toNat, a.minor.toNat, a.micro.toNat] =
    numbers ++ List.replicate (3 - numbers.length) 0

/- The version with up to three numbers. -/
def Triple.padded (values : List UInt64) : Triple :=
  ⟨values.getD 0 0, values.getD 1 0, values.getD 2 0⟩

theorem Triple.padded_eq_iff
    {values : List UInt64}
    (hFew : values.length ≤ 3)
    (a : Triple) :
    padded values = a ↔
      a.Pads (values.map UInt64.toNat) := by
  rcases a with ⟨major, minor, micro⟩
  match values with
  | [] | [_] | [_, _] | [_, _, _] =>
      simp [padded, Pads, ← UInt64.toNat_inj, eq_comm]
  | _ :: _ :: _ :: _ :: _ =>
      simp only [List.length_cons] at hFew
      omega

/- Numerals have numbers of 64 bits. -/
theorem exists_values_of_numerals
    {parts : List (List Char)}
    {numbers : List Nat}
    (hNumerals : List.Forall₂ IsNumeral parts numbers) :
    ∃ values : List UInt64,
      numbers = values.map UInt64.toNat := by
  refine ⟨numbers.map UInt64.ofNat, ?_⟩
  induction hNumerals with
  | nil => rfl
  | cons hText _ ih =>
      rw [List.map_cons, List.map_cons, hText.toNat_ofNat,
        ← ih]

namespace Token

/- The parts of a token, from the left. -/
def places : List Part :=
  [.major, .minor, .micro]

/-
  Why a token with these parts is refused.  That they are
  too many is reported whatever they are.
-/
inductive IsRefused
    (text : String)
    (parts : List (List Char)) : VersionError → Prop
  | tooMany
      (hMany : 3 < parts.length) :
      IsRefused text parts (.tooManyParts text)
  | invalid
      (e : VersionError)
      (hFew : parts.length ≤ 3)
      (hLeftmost : IsLeftmostInvalid places parts e) :
      IsRefused text parts e

/- How a text is read as a token. -/
structure FollowsGrammar
    (text : String)
    (result : Except VersionError Triple) : Prop where
  ok_iff :
    ∀ a,
      result = .ok a ↔
        text = "" ∧ a = ⟨0, 1, 0⟩ ∨
          ∃ parts numbers,
            Text.SplitsInto '.' text.toList parts ∧
              parts.length ≤ 3 ∧
              List.Forall₂ IsNumeral parts numbers ∧
              a.Pads numbers
  error_iff :
    ∀ e,
      result = .error e ↔
        text ≠ "" ∧
          ∃ parts,
            Text.SplitsInto '.' text.toList parts ∧
              IsRefused text parts e

theorem triple_of_empty : (mk "").triple = .ok ⟨0, 1, 0⟩ := rfl

variable {token : Token}

/- Up to three parts are read one after the other. -/
theorem triple_eq_partValues
    (hSome : token.text ≠ "")
    (hFew :
      (Text.segments '.' token.text.toList).length ≤ 3) :
    token.triple =
      (partValues places
        (Text.segments '.' token.text.toList)).map
          Triple.padded := by
  unfold triple
  rw [if_neg hSome]
  generalize Text.segments '.' token.text.toList = parts
    at hFew
  match parts with
  | [] => rfl
  | [a] =>
      simp only [places, partValues]
      cases partValue .major a <;> rfl
  | [a, b] =>
      simp only [places, partValues]
      cases partValue .major a with
      | error e => rfl
      | ok major => cases partValue .minor b <;> rfl
  | [a, b, c] =>
      simp only [places, partValues]
      cases partValue .major a with
      | error e => rfl
      | ok major =>
          cases partValue .minor b with
          | error e => rfl
          | ok minor => cases partValue .micro c <;> rfl
  | _ :: _ :: _ :: _ :: _ =>
      simp only [List.length_cons] at hFew
      omega

theorem triple_of_tooMany
    (hSome : token.text ≠ "")
    (hMany :
      3 < (Text.segments '.' token.text.toList).length) :
    token.triple = .error (.tooManyParts token.text) := by
  unfold triple
  rw [if_neg hSome]
  generalize Text.segments '.' token.text.toList = parts
    at hMany
  match parts with
  | [] | [_] | [_, _] | [_, _, _] => simp at hMany
  | _ :: _ :: _ :: _ :: _ => rfl

/- A token has numbers if all of its parts have. -/
theorem triple_eq_ok_iff
    (hSome : token.text ≠ "")
    (a : Triple) :
    token.triple = .ok a ↔
      (Text.segments '.' token.text.toList).length ≤ 3 ∧
        ∃ numbers,
          List.Forall₂ IsNumeral
              (Text.segments '.' token.text.toList) numbers ∧
            a.Pads numbers := by
  by_cases hFew :
      (Text.segments '.' token.text.toList).length ≤ 3
  · have hRead := triple_eq_partValues hSome hFew
    generalize Text.segments '.' token.text.toList = parts
      at hFew hRead ⊢
    have hPlaces : parts.length ≤ places.length := hFew
    have hLength :
        ∀ values : List UInt64,
          List.Forall₂ IsNumeral parts
              (values.map UInt64.toNat) →
            values.length ≤ 3 := by
      intro values hNumerals
      have hSame := hNumerals.length_eq
      rw [List.length_map] at hSame
      exact hSame ▸ hFew
    rw [hRead, and_iff_right hFew]
    constructor
    · intro hTriple
      cases hValues : partValues places parts with
      | error e =>
          rw [hValues] at hTriple
          cases hTriple
      | ok values =>
          rw [hValues] at hTriple
          rw [partValues_eq_ok_iff hPlaces] at hValues
          exact
            ⟨_, hValues,
              (Triple.padded_eq_iff (hLength _ hValues) a).1
                (Except.ok.inj hTriple)⟩
    · rintro ⟨numbers, hNumerals, hPads⟩
      rcases exists_values_of_numerals hNumerals with
        ⟨values, rfl⟩
      rw [← Triple.padded_eq_iff (hLength _ hNumerals)]
        at hPads
      rw [← partValues_eq_ok_iff hPlaces] at hNumerals
      rw [hNumerals, ← hPads]
      rfl
  · rw [triple_of_tooMany hSome (Nat.lt_of_not_le hFew)]
    simp [hFew]

/- The parts of one that has none say why it is refused. -/
theorem triple_eq_error_iff
    (hSome : token.text ≠ "")
    (e : VersionError) :
    token.triple = .error e ↔
      IsRefused token.text
        (Text.segments '.' token.text.toList) e := by
  by_cases hFew :
      (Text.segments '.' token.text.toList).length ≤ 3
  · have hRead := triple_eq_partValues hSome hFew
    generalize Text.segments '.' token.text.toList = parts
      at hFew hRead ⊢
    have hPlaces : parts.length ≤ places.length := hFew
    have hLeftmost := partValues_eq_error_iff hPlaces e
    rw [hRead]
    constructor
    · intro hTriple
      apply IsRefused.invalid e hFew
      rw [← hLeftmost]
      cases hValues : partValues places parts with
      | error other =>
          rw [hValues] at hTriple
          exact congrArg _ (Except.error.inj hTriple)
      | ok values =>
          rw [hValues] at hTriple
          cases hTriple
    · intro hRefused
      cases hRefused with
      | tooMany hMany => exact absurd hFew (Nat.not_le.2 hMany)
      | invalid _ _ hInvalid =>
          rw [hLeftmost.2 hInvalid]
          rfl
  · have hMany := Nat.lt_of_not_le hFew
    rw [triple_of_tooMany hSome hMany]
    constructor
    · intro hTriple
      cases hTriple
      exact .tooMany hMany
    · intro hRefused
      cases hRefused with
      | tooMany _ => rfl
      | invalid _ hOther _ => exact absurd hOther hFew

/- The empty text is one part, which is no numeral. -/
theorem not_numerals_of_empty
    {parts : List (List Char)}
    (hParts : Text.SplitsInto '.' [] parts)
    (numbers : List Nat) :
    ¬ List.Forall₂ IsNumeral parts numbers := by
  intro hNumerals
  rw [Text.splitsInto_iff] at hParts
  subst hParts
  cases hNumerals with
  | cons hText _ =>
      rcases hText with ⟨digits, hDigits | hPlus, hSome, _⟩
      · exact hSome hDigits.symm
      · cases hPlus

/- Every token is read as the grammar says. -/
theorem triple_follows_grammar (token : Token) :
    FollowsGrammar token.text token.triple := by
  by_cases hEmpty : token.text = ""
  · rcases token with ⟨text⟩
    subst hEmpty
    rw [triple_of_empty]
    constructor
    · intro a
      constructor
      · intro hTriple
        exact Or.inl ⟨rfl, (Except.ok.inj hTriple).symm⟩
      · rintro
          (⟨_, rfl⟩ | ⟨parts, numbers, hParts, _, hNumerals, _⟩)
        · rfl
        · exact
            absurd hNumerals
              (not_numerals_of_empty hParts numbers)
    · simp
  · have hParts := Text.splitsInto_iff '.' token.text.toList
    constructor
    · intro a
      rw [triple_eq_ok_iff hEmpty]
      simp [hEmpty, hParts]
    · intro e
      rw [triple_eq_error_iff hEmpty]
      simp [hEmpty, hParts]

end Token

end Version

end NetPlugin
