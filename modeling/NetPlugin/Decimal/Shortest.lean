import NetPlugin.Decimal.Binary64

/-
  The shortest decimal that reads back as a given number.

  The reals that round to a number form an interval, whose
  ends belong to it when the significand is even.  For one
  digit, two digits and so on, the two neighbours of the
  number on the grid of that many digits are tried: if any
  point of the grid lies in the interval, so does one of
  these two.

  Key definitions include:
    * `Shortest.Interval`
    * `Shortest.pick?`
    * `Shortest.digits`
    * `Binary64.shortest`
-/

------------------------------------------------------------
-- The Interval of a Number
------------------------------------------------------------

namespace NetPlugin

/- `digits * 10 ^ exponent`. -/
structure Decimal where
  digits : Nat
  exponent : Int
  deriving DecidableEq, Repr

namespace Shortest

/-
  A number and the ends of its interval, counted in
  quarters of its last binary place.
-/
structure Interval where
  low : Nat
  value : Nat
  high : Nat
  closed : Bool

/-
  The interval reaches half a place up and down, and only a
  quarter down where the numbers below lie twice as dense.
-/
def interval (x : Binary64) : Interval where
  low :=
    if x.significand = Binary64.significandFloor ∧
        x.exponent > Binary64.leastExponent then
      4 * x.significand - 1
    else 4 * x.significand - 2
  value := 4 * x.significand
  high := 4 * x.significand + 2
  closed := x.significand % 2 == 0

/- An integral power as numerator and denominator. -/
def power
    (base : Nat)
    (exponent : Int) : Nat × Nat :=
  if 0 ≤ exponent then (Nat.pow base exponent.toNat, 1)
  else (1, Nat.pow base (-exponent).toNat)

------------------------------------------------------------
-- Decimal Grids
------------------------------------------------------------

/- Whether a point, already scaled, lies in the interval. -/
def Interval.holds
    (i : Interval)
    (scale point : Nat) : Bool :=
  if i.closed then
    i.low * scale ≤ point && point ≤ i.high * scale
  else
    i.low * scale < point && point < i.high * scale

/-
  The point of the grid of multiples of `10 ^ place` that
  lies in the interval; of two such neighbours the nearer,
  and the even one at equal distance.
-/
def pick?
    (x : Binary64)
    (place : Int) : Option Nat :=
  let i := interval x
  let (placeNum, placeDen) := power 10 place
  let (unitNum, unitDen) := power 2 (x.exponent - 2)
  let step := placeNum * unitDen
  let scale := unitNum * placeDen
  let value := i.value * scale
  let below := value / step
  let above := below + 1
  match i.holds scale (below * step),
      i.holds scale (above * step) with
  | true, false => some below
  | false, true => some above
  | false, false => none
  | true, true =>
      let down := value - below * step
      let up := above * step - value
      if down < up then some below
      else if up < down then some above
      else if below % 2 = 0 then some below
      else some above

/- The first grid with a point, from coarse to fine. -/
def firstHit
    (x : Binary64)
    (place : Int) : Nat → Decimal
  | 0 => ⟨0, 0⟩
  | grids + 1 =>
      match pick? x place with
      | some digits => ⟨digits, place⟩
      | none => firstHit x (place - 1) grids

/- The decimal place of the leading digit. -/
def leadingPlace (x : Binary64) : Int :=
  let (num, den) := x.ratio
  if den ≤ num then
    ((Nat.toDigits 10 (num / den)).length : Int) - 1
  else
    let reciprocal := (den + num - 1) / num
    0 - ((Nat.toDigits 10 (reciprocal - 1)).length : Int)

end Shortest

------------------------------------------------------------
-- Shortest Decimals
------------------------------------------------------------

/- Seventeen digits tell any two numbers apart. -/
def Binary64.shortest (x : Binary64) : Decimal :=
  Shortest.firstHit x (Shortest.leadingPlace x) 17

/- The least number needs one digit. -/
example :
    (Binary64.mk 1 (-1074)).shortest = ⟨5, -324⟩ := by
  decide +kernel

example :
    (Binary64.ofNat (2 ^ 64)).shortest =
      ⟨18446744073709552, 3⟩ := by
  decide +kernel

end NetPlugin
