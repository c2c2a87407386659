/-
  Non-negative binary floating-point numbers of 64 bits, in
  exact arithmetic on natural numbers.

  A number is `significand * 2 ^ exponent` in its one
  canonical form; every operation computes the exact result
  and rounds it once, to the nearest number, a tie to the
  even significand.  An exponent above the greatest one
  stands for infinity.

  Key definitions include:
    * `Binary64`
    * `Binary64.ofRatio`
    * `Binary64.mul`
    * `Binary64.div`
    * `Binary64.scaleUp?`
    * `Binary64.scaleDown`
-/

------------------------------------------------------------
-- Numbers
------------------------------------------------------------

namespace NetPlugin

/- `significand * 2 ^ exponent`. -/
structure Binary64 where
  significand : Nat
  exponent : Int
  deriving DecidableEq, Repr

namespace Binary64

/- The exponent of the numbers next to zero. -/
def leastExponent : Int := -1074

/- The exponent of the greatest finite numbers. -/
def greatestExponent : Int := 971

/- Below this all significands have their full width. -/
def significandLimit : Nat := Nat.pow 2 53

/- The least significand of full width. -/
def significandFloor : Nat := Nat.pow 2 52

/- The number zero. -/
def zero : Binary64 :=
  ⟨0, leastExponent⟩

/- Whether a number is zero. -/
def isZero (x : Binary64) : Bool :=
  x.significand == 0

/- Whether a result was too large for a finite number. -/
def isInfinite (x : Binary64) : Bool :=
  x.exponent > greatestExponent

/- A number as numerator and denominator. -/
def ratio (x : Binary64) : Nat × Nat :=
  if 0 ≤ x.exponent then
    (x.significand * Nat.pow 2 x.exponent.toNat, 1)
  else
    (x.significand, Nat.pow 2 (-x.exponent).toNat)

------------------------------------------------------------
-- Rounding
------------------------------------------------------------

/- The nearest natural number, a tie to the even one. -/
def roundHalfEven (num den : Nat) : Nat :=
  let whole := num / den
  let twice := 2 * (num % den)
  if twice < den then whole
  else if den < twice then whole + 1
  else whole + whole % 2

/- The quotient `num / (den * 2 ^ exponent)` as a ratio. -/
def scaled
    (num den : Nat)
    (exponent : Int) : Nat × Nat :=
  if 0 ≤ exponent then
    (num, den * Nat.pow 2 exponent.toNat)
  else (num * Nat.pow 2 (-exponent).toNat, den)

/-
  The exponent at which a quotient has a significand of
  full width, or the least exponent.  The difference of the
  binary logarithms is off by at most one.
-/
def exponentOf (num den : Nat) : Int :=
  let guess : Int := (num.log2 : Int) - den.log2 - 52
  let (n, d) := scaled num den guess
  if n / d < significandFloor then
    max (guess - 1) leastExponent
  else max guess leastExponent

/- The number nearest to a quotient. -/
def ofRatio (num den : Nat) : Binary64 :=
  if num = 0 then zero
  else
    let exponent := exponentOf num den
    let (n, d) := scaled num den exponent
    let significand := roundHalfEven n d
    if significand = significandLimit then
      ⟨significandFloor, exponent + 1⟩
    else ⟨significand, exponent⟩

/- The number nearest to a natural number. -/
def ofNat (n : Nat) : Binary64 :=
  ofRatio n 1

------------------------------------------------------------
-- Arithmetic
------------------------------------------------------------

/- The rounded product. -/
def mul (x y : Binary64) : Binary64 :=
  let (xn, xd) := x.ratio
  let (yn, yd) := y.ratio
  ofRatio (xn * yn) (xd * yd)

/- The rounded quotient. -/
def div (x y : Binary64) : Binary64 :=
  let (xn, xd) := x.ratio
  let (yn, yd) := y.ratio
  ofRatio (xn * yd) (xd * yn)

------------------------------------------------------------
-- Powers of Ten
------------------------------------------------------------

/- The greatest finite power of ten. -/
def greatestPower : Nat := 308

/- The number nearest to a power of ten. -/
def powerOfTen (power : Nat) : Binary64 :=
  ofNat (Nat.pow 10 power)

/-
  Multiply by a power of ten; there is no answer where the
  product is too large.
-/
def scaleUp?
    (x : Binary64)
    (power : Nat) : Option Binary64 :=
  if power ≤ greatestPower then
    let product := x.mul (powerOfTen power)
    if product.isInfinite then none else some product
  else if x.isZero then some x
  else none

/-
  Divide by a power of ten, in steps of the greatest one.
  The steps end early once nothing is left.
-/
def scaleDown
    (x : Binary64)
    (power : Nat) : Binary64 :=
  if power ≤ greatestPower then x.div (powerOfTen power)
  else if x.isZero then x
  else
    scaleDown (x.div (powerOfTen greatestPower))
      (power - greatestPower)
  termination_by power
  decreasing_by simp only [greatestPower] at *; omega

/- One tenth and the least number. -/
example :
    ofRatio 1 10 = ⟨7205759403792794, -56⟩ := by
  decide +kernel

example : (ofNat 5).scaleDown 324 = ⟨1, -1074⟩ := by
  decide +kernel

end Binary64

end NetPlugin
