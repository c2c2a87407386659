import Mathlib.Data.Prod.Lex
import NetPlugin.Version.Token

/-
  The order of version tokens.

  The numbers of versions are compared lexicographically.
  Tokens are compared by the numbers that they are written
  for; a token without numbers has no place in the order.

  Main declarations:
    * `Version.Triple.numbers`
    * `Version.Token.IsAtLeast` and `Version.Token.IsBelow`
    * `Version.Token.atLeast_eq_ok_true_iff`
    * `Version.Token.atLeast_eq_ok_false_iff`
    * `Version.Token.atLeast_eq_error_iff`
-/

------------------------------------------------------------
-- Numbers
------------------------------------------------------------

namespace NetPlugin

namespace Version

namespace Triple

/- The numbers of a version in lexicographic order. -/
def numbers (a : Triple) : Nat ×ₗ Nat ×ₗ Nat :=
  toLex
    (a.major.toNat, toLex (a.minor.toNat, a.micro.toNat))

/- The comparison of versions is the lexicographic one. -/
theorem atLeast_eq_true_iff (a b : Triple) :
    a.atLeast b = true ↔ b.numbers ≤ a.numbers := by
  unfold atLeast numbers
  rw [Prod.Lex.toLex_le_toLex, Prod.Lex.toLex_le_toLex]
  by_cases hMajor : a.major = b.major
  · by_cases hMinor : a.minor = b.minor
    · simp [hMajor, hMinor, UInt64.le_iff_toNat_le]
    · have hNumbers : b.minor.toNat ≠ a.minor.toNat := by
        intro hEq
        exact hMinor (UInt64.toNat_inj.1 hEq).symm
      simp [hMajor, hMinor, hNumbers,
        UInt64.lt_iff_toNat_lt]
  · have hNumbers : b.major.toNat ≠ a.major.toNat := by
      intro hEq
      exact hMajor (UInt64.toNat_inj.1 hEq).symm
    simp [hMajor, hNumbers, UInt64.lt_iff_toNat_lt]

/- A version that is not reached is above the other one. -/
theorem atLeast_eq_false_iff (a b : Triple) :
    a.atLeast b = false ↔ a.numbers < b.numbers := by
  rw [← Bool.not_eq_true, atLeast_eq_true_iff, not_le]

end Triple

------------------------------------------------------------
-- Tokens
------------------------------------------------------------

namespace Token

/- Both tokens have numbers, and the first is not below. -/
def IsAtLeast (token other : Token) : Prop :=
  ∃ a b, token.triple = .ok a ∧ other.triple = .ok b ∧
    b.numbers ≤ a.numbers

/- Both tokens have numbers, and the first is below. -/
def IsBelow (token other : Token) : Prop :=
  ∃ a b, token.triple = .ok a ∧ other.triple = .ok b ∧
    a.numbers < b.numbers

/- A token that has numbers. -/
def IsNumbered (token : Token) : Prop :=
  ∃ a, token.triple = .ok a

/- A token without numbers has a failure instead. -/
theorem not_isNumbered_of_error
    {token : Token}
    {e : VersionError}
    (hToken : token.triple = .error e) :
    ¬ token.IsNumbered := by
  rintro ⟨a, hNumbers⟩
  rw [hToken] at hNumbers
  cases hNumbers

instance (token : Token) : Decidable token.IsNumbered :=
  match hToken : token.triple with
  | .ok a => isTrue ⟨a, hToken⟩
  | .error _ => isFalse (not_isNumbered_of_error hToken)

variable {token other : Token}

/- The comparison of two tokens that have numbers. -/
theorem atLeast_of_triple
    {a b : Triple}
    (hToken : token.triple = .ok a)
    (hOther : other.triple = .ok b) :
    token.atLeast other = .ok (a.atLeast b) := by
  unfold atLeast
  rw [hToken, hOther]
  rfl

/- The first token's failure hides that of the second. -/
theorem atLeast_of_triple_error
    {e : VersionError}
    (hToken : token.triple = .error e)
    (other : Token) :
    token.atLeast other = .error e := by
  unfold atLeast
  rw [hToken]
  rfl

theorem atLeast_of_other_error
    {a : Triple}
    {e : VersionError}
    (hToken : token.triple = .ok a)
    (hOther : other.triple = .error e) :
    token.atLeast other = .error e := by
  unfold atLeast
  rw [hToken, hOther]
  rfl

/- A comparison succeeds for tokens that have numbers. -/
theorem atLeast_eq_ok_iff (reached : Bool) :
    token.atLeast other = .ok reached ↔
      ∃ a b, token.triple = .ok a ∧ other.triple = .ok b ∧
        a.atLeast b = reached := by
  constructor
  · intro hCompared
    cases hToken : token.triple with
    | error e =>
        rw [atLeast_of_triple_error hToken] at hCompared
        cases hCompared
    | ok a =>
        cases hOther : other.triple with
        | error e =>
            rw [atLeast_of_other_error hToken hOther]
              at hCompared
            cases hCompared
        | ok b =>
            rw [atLeast_of_triple hToken hOther]
              at hCompared
            exact ⟨a, b, rfl, rfl, Except.ok.inj hCompared⟩
  · rintro ⟨a, b, hToken, hOther, rfl⟩
    exact atLeast_of_triple hToken hOther

theorem atLeast_eq_ok_true_iff :
    token.atLeast other = .ok true ↔
      token.IsAtLeast other := by
  simp only [atLeast_eq_ok_iff, IsAtLeast,
    Triple.atLeast_eq_true_iff]

theorem atLeast_eq_ok_false_iff :
    token.atLeast other = .ok false ↔
      token.IsBelow other := by
  simp only [atLeast_eq_ok_iff, IsBelow,
    Triple.atLeast_eq_false_iff]

/-
  A comparison fails with the failure of the first token
  without numbers.
-/
theorem atLeast_eq_error_iff (e : VersionError) :
    token.atLeast other = .error e ↔
      token.triple = .error e ∨
        (token.IsNumbered ∧ other.triple = .error e) := by
  cases hToken : token.triple with
  | error f =>
      rw [atLeast_of_triple_error hToken]
      simp [IsNumbered, hToken]
  | ok a =>
      cases hOther : other.triple with
      | error f =>
          rw [atLeast_of_other_error hToken hOther]
          simp [IsNumbered, hToken]
      | ok b =>
          rw [atLeast_of_triple hToken hOther]
          simp

instance (token other : Token) :
    Decidable (token.IsAtLeast other) :=
  decidable_of_iff _ atLeast_eq_ok_true_iff

instance (token other : Token) :
    Decidable (token.IsBelow other) :=
  decidable_of_iff _ atLeast_eq_ok_false_iff

/- A token that has numbers is at least itself. -/
theorem IsNumbered.isAtLeast_self
    (hNumbered : token.IsNumbered) :
    token.IsAtLeast token := by
  rcases hNumbered with ⟨a, hToken⟩
  exact ⟨a, a, hToken, hToken, le_refl _⟩

theorem IsAtLeast.isNumbered
    (hReached : token.IsAtLeast other) :
    token.IsNumbered := by
  rcases hReached with ⟨a, _, hToken, _, _⟩
  exact ⟨a, hToken⟩

theorem IsBelow.isNumbered
    (hBelow : token.IsBelow other) :
    token.IsNumbered := by
  rcases hBelow with ⟨a, _, hToken, _, _⟩
  exact ⟨a, hToken⟩

/- A version reaches all that a lower one reaches. -/
theorem IsAtLeast.trans
    {third : Token}
    (hToken : token.IsAtLeast other)
    (hOther : other.IsAtLeast third) :
    token.IsAtLeast third := by
  rcases hToken with ⟨a, b, hTriple, hMiddle, hUpper⟩
  rcases hOther with ⟨b', d, hAgain, hThird, hLower⟩
  have hSame : b = b' :=
    Except.ok.inj (hMiddle.symm.trans hAgain)
  subst hSame
  exact ⟨a, d, hTriple, hThird, hLower.trans hUpper⟩

theorem IsBelow.isAtLeast
    (hBelow : token.IsBelow other) :
    other.IsAtLeast token := by
  rcases hBelow with ⟨a, b, hToken, hOther, hLess⟩
  exact ⟨b, a, hOther, hToken, le_of_lt hLess⟩

/- A token is not both below and at least another one. -/
theorem IsBelow.not_isAtLeast
    (hBelow : token.IsBelow other) :
    ¬ token.IsAtLeast other := by
  rcases hBelow with ⟨a, b, hToken, hOther, hLess⟩
  rintro ⟨a', b', hToken', hOther', hAtLeast⟩
  have hA : a = a' :=
    Except.ok.inj (hToken.symm.trans hToken')
  have hB : b = b' :=
    Except.ok.inj (hOther.symm.trans hOther')
  subst hA hB
  exact absurd hAtLeast (not_le.2 hLess)

/- Tokens with numbers can be compared. -/
theorem IsNumbered.isAtLeast_or_isBelow
    (hToken : token.IsNumbered)
    (hOther : other.IsNumbered) :
    token.IsAtLeast other ∨ token.IsBelow other := by
  rcases hToken with ⟨a, hToken⟩
  rcases hOther with ⟨b, hOther⟩
  rcases le_or_gt b.numbers a.numbers with hLe | hLt
  · exact Or.inl ⟨a, b, hToken, hOther, hLe⟩
  · exact Or.inr ⟨a, b, hToken, hOther, hLt⟩

end Token

end Version

end NetPlugin
