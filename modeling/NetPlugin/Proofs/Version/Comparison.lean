import NetPlugin.Proofs.Version.Grammar
import NetPlugin.Proofs.Version.Order

/-
  Comparing version tokens.

  Three numbers of 64 bits that are written in decimal are
  read back, and compared lexicographically.  Tokens that
  have numbers are in a total preorder, in which those that
  are spelled in different ways for the same numbers stand
  in one place; a token that has none cannot be compared.

  Main declarations:
    * `Version.Triple.token` and `Token.triple_token`
    * `Version.Token.OrdersTokens`
    * `Version.Token.atLeast_ordersTokens`
-/

------------------------------------------------------------
-- Written Numbers
------------------------------------------------------------

namespace NetPlugin

namespace Version

/- Three numbers in decimal, with points between them. -/
def Triple.token (a : Triple) : Token :=
  ⟨a.major.toNat.repr ++ "." ++ a.minor.toNat.repr ++ "." ++
    a.micro.toNat.repr⟩

/- The decimal digits of a number are a numeral for it. -/
theorem isNumeral_toDigits (value : UInt64) :
    IsNumeral (Nat.toDigits 10 value.toNat) value.toNat := by
  refine
    ⟨_, Or.inl rfl, Nat.toDigits_ne_nil, ?_,
      Nat.ofDigitChars_ten_toDigits,
      value.toNat_lt_size⟩
  intro c hDigit
  rw [← isDigit_iff]
  exact
    Nat.isDigit_of_mem_toDigits (by decide) (by decide)
      hDigit

/- No point is among the digits of a number. -/
theorem point_not_mem_toDigits (n : Nat) :
    '.' ∉ Nat.toDigits 10 n := by
  intro hPoint
  have hDigit :=
    Nat.isDigit_of_mem_toDigits (by decide) (by decide)
      hPoint
  revert hDigit
  decide

namespace Token

theorem segments_token (a : Triple) :
    Text.segments '.' a.token.text.toList =
      [Nat.toDigits 10 a.major.toNat,
        Nat.toDigits 10 a.minor.toNat,
        Nat.toDigits 10 a.micro.toNat] := by
  symm
  rw [← Text.splitsInto_iff]
  constructor
  · simp
  · simp [Text.joined, Triple.token]
  · simp [point_not_mem_toDigits]

/- Numbers are read back, however great they are. -/
theorem triple_token (a : Triple) :
    a.token.triple = .ok a := by
  have hSome : a.token.text ≠ "" := by
    simp [Triple.token]
  rw [triple_eq_ok_iff hSome, segments_token]
  refine
    ⟨by simp,
      [a.major.toNat, a.minor.toNat, a.micro.toNat], ?_, ?_⟩
  · simp [isNumeral_toDigits]
  · rfl

end Token

------------------------------------------------------------
-- The Preorder
------------------------------------------------------------

/- A version is determined by its numbers. -/
theorem Triple.numbers_inj {a b : Triple} :
    a.numbers = b.numbers ↔ a = b := by
  rcases a with ⟨major, minor, micro⟩
  rcases b with ⟨major', minor', micro'⟩
  simp [numbers, UInt64.toNat_inj]

namespace Token

variable {token other : Token}

/- Tokens for the same numbers, however they are spelled. -/
theorem isAtLeast_antisymm_iff :
    token.IsAtLeast other ∧ other.IsAtLeast token ↔
      ∃ a, token.triple = .ok a ∧ other.triple = .ok a := by
  constructor
  · rintro ⟨⟨a, b, hToken, hOther, hLower⟩, hUpper⟩
    rcases hUpper with ⟨b', a', hOther', hToken', hUpper⟩
    cases hToken.symm.trans hToken'
    cases hOther.symm.trans hOther'
    have hSame : a = b :=
      Triple.numbers_inj.1 (le_antisymm hUpper hLower)
    subst hSame
    exact ⟨a, hToken, hOther⟩
  · rintro ⟨a, hToken, hOther⟩
    exact
      ⟨⟨a, a, hToken, hOther, le_refl _⟩,
        ⟨a, a, hOther, hToken, le_refl _⟩⟩

/- Tokens that have numbers can always be ordered. -/
theorem IsNumbered.isAtLeast_total
    (hToken : token.IsNumbered)
    (hOther : other.IsNumbered) :
    token.IsAtLeast other ∨ other.IsAtLeast token :=
  (hToken.isAtLeast_or_isBelow hOther).imp_right
    IsBelow.isAtLeast

theorem not_isNumbered_iff :
    ¬ token.IsNumbered ↔
      ∃ e, token.triple = .error e := by
  constructor
  · intro hNot
    cases hToken : token.triple with
    | error e => exact ⟨e, rfl⟩
    | ok a => exact absurd ⟨a, hToken⟩ hNot
  · rintro ⟨e, hToken⟩
    exact not_isNumbered_of_error hToken

/- A comparison fails where one of the tokens has none. -/
theorem exists_atLeast_eq_error_iff
    (token other : Token) :
    (∃ e, token.atLeast other = .error e) ↔
      ¬ token.IsNumbered ∨ ¬ other.IsNumbered := by
  simp only [atLeast_eq_error_iff, exists_or,
    exists_and_left, ← not_isNumbered_iff]
  by_cases hToken : token.IsNumbered <;> simp [hToken]

/-
  A comparison of tokens that orders them by their numbers,
  and fails where there are none.
-/
structure OrdersTokens
    (compare : Token → Token → Except VersionError Bool) :
    Prop where
  printed :
    ∀ a b : Triple,
      compare a.token b.token =
        .ok (decide (b.numbers ≤ a.numbers))
  failed_iff :
    ∀ token other,
      (∃ e, compare token other = .error e) ↔
        ¬ token.IsNumbered ∨ ¬ other.IsNumbered
  firstFailure :
    ∀ token other e,
      token.triple = .error e →
        compare token other = .error e
  secondFailure :
    ∀ token other e,
      token.IsNumbered → other.triple = .error e →
        compare token other = .error e
  refl :
    ∀ token,
      token.IsNumbered → compare token token = .ok true
  trans :
    ∀ token other third,
      compare token other = .ok true →
      compare other third = .ok true →
        compare token third = .ok true
  total :
    ∀ token other,
      token.IsNumbered → other.IsNumbered →
        compare token other = .ok true ∨
          compare other token = .ok true
  antisymm_iff :
    ∀ token other,
      compare token other = .ok true ∧
          compare other token = .ok true ↔
        ∃ a, token.triple = .ok a ∧ other.triple = .ok a
  /- Some texts of 0.1.0, and of 1.0.0. -/
  spellings :
    ∀ texts ∈ [["", "0.1", "00.1.0"], ["1", "+1.0.0"]],
      ∀ one ∈ texts, ∀ two ∈ texts,
        compare ⟨one⟩ ⟨two⟩ = .ok true

theorem atLeast_ordersTokens : OrdersTokens atLeast := by
  constructor
  case printed =>
    intro a b
    rw [atLeast_of_triple (triple_token a) (triple_token b),
      Except.ok.injEq, Bool.eq_iff_iff,
      Triple.atLeast_eq_true_iff, decide_eq_true_iff]
  case failed_iff => exact exists_atLeast_eq_error_iff
  case firstFailure =>
    intro token other e hToken
    exact atLeast_of_triple_error hToken other
  case secondFailure =>
    intro token other e hToken hOther
    exact (atLeast_eq_error_iff e).2 (Or.inr ⟨hToken, hOther⟩)
  case refl =>
    intro token hNumbered
    exact
      atLeast_eq_ok_true_iff.2 hNumbered.isAtLeast_self
  case trans =>
    simp only [atLeast_eq_ok_true_iff]
    intro token other third hToken hOther
    exact hToken.trans hOther
  case total =>
    simp only [atLeast_eq_ok_true_iff]
    intro token other hToken hOther
    exact hToken.isAtLeast_total hOther
  case antisymm_iff =>
    simp only [atLeast_eq_ok_true_iff]
    intro token other
    exact isAtLeast_antisymm_iff
  case spellings => decide +kernel

end Token

end Version

end NetPlugin
