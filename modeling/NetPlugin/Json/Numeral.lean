import NetPlugin.Json.Reader

/-
  Reading numbers.

  A numeral is split into its sign, its whole digits, its
  fraction digits and its exponent; its value is computed
  from these parts.  Digits are collected in 64 bits; what
  does not fit only moves the decimal point.

  Key definitions include:
    * `Json.collect`
    * `Json.wholeDigits`
    * `Json.fractionDigits`
    * `Json.exponentDigits`
    * `Json.floatValue?`
    * `Json.readNumber`
    * `Json.skipNumber`
-/

------------------------------------------------------------
-- Digits
------------------------------------------------------------

namespace NetPlugin

namespace Json

/- The value of a digit. -/
def digitValue (b : UInt8) : Nat :=
  b.toNat - 0x30

/- The digits at the front. -/
def leadingDigits (bytes : Bytes) : Bytes :=
  bytes.takeWhile isDigit

/- What stands behind the digits at the front. -/
def afterDigits (bytes : Bytes) : Bytes :=
  bytes.dropWhile isDigit

/- The greatest number of 64 bits. -/
def wordLimit : Nat := 0xFFFFFFFFFFFFFFFF

/- The greatest exponent that is counted. -/
def exponentLimit : Nat := 0x7FFFFFFF

/-
  Append digits to a number as long as it fits; the answer
  holds the digits that are left.
-/
def collect
    (limit number : Nat) : Bytes → Nat × Bytes
  | [] => (number, [])
  | digit :: rest =>
      let next := number * 10 + digitValue digit
      if next ≤ limit then collect limit next rest
      else (number, digit :: rest)

------------------------------------------------------------
-- The Parts of a Numeral
------------------------------------------------------------

/- A zero alone, or digits that begin with another one. -/
def wholeDigits : Reader Bytes := fun bytes =>
  match bytes with
  | [] => .error (.atNext .endInValue [])
  | b :: rest =>
      if b = Mark.zero then
        match leadingDigits rest with
        | [] => .ok ([b], rest)
        | _ :: _ => .error (.atPeek .invalidNumber rest)
      else if isDigit b then
        .ok (b :: leadingDigits rest, afterDigits rest)
      else .error (.atNext .invalidNumber rest)

/- The digits behind a point, if there is one. -/
def fractionDigits : Reader (Option Bytes) := fun bytes =>
  match bytes with
  | [] => .ok (none, [])
  | b :: rest =>
      if b = Mark.point then
        match leadingDigits rest with
        | [] =>
            match rest with
            | [] => .error (.atPeek .endInValue [])
            | c :: after =>
                .error (.atPeek .invalidNumber (c :: after))
        | digit :: more =>
            .ok (some (digit :: more), afterDigits rest)
      else .ok (none, b :: rest)

/- The sign of an exponent, if there is one. -/
def exponentSign (bytes : Bytes) : Bool × Bytes :=
  match bytes with
  | [] => (false, [])
  | b :: rest =>
      if b = Mark.minus then (true, rest)
      else if b = Mark.plus then (false, rest)
      else (false, b :: rest)

/- The sign and the digits of an exponent. -/
structure Exponent where
  negative : Bool
  digits : Bytes

/- The exponent, if there is one. -/
def exponentDigits : Reader (Option Exponent) :=
  fun bytes =>
    match bytes with
    | [] => .ok (none, [])
    | b :: rest =>
        if isExponentMark b then
          let (negative, behind) := exponentSign rest
          match behind with
          | [] => .error (.atNext .endInValue [])
          | digit :: after =>
              if isDigit digit then
                .ok
                  (some
                    ⟨negative, digit :: leadingDigits after⟩,
                    afterDigits after)
              else .error (.atNext .invalidNumber after)
        else .ok (none, b :: rest)

------------------------------------------------------------
-- Values
------------------------------------------------------------

/-
  The floating-point number of a significand and a power of
  ten, rounding once for each operand and once for the
  result.
-/
def floatValue?
    (significand : Nat)
    (power : Int) : Option Binary64 :=
  let f := Binary64.ofNat significand
  if 0 ≤ power then f.scaleUp? power.toNat
  else some (f.scaleDown (-power).toNat)

/- An integer, which has to fit into 64 bits with its sign. -/
def integerNumber
    (negative : Bool)
    (significand : Nat) : Number :=
  if negative then
    if significand = 0 ∨
        Nat.pow 2 63 < significand then
      .float true (Binary64.ofNat significand)
    else .integer (-(significand : Int))
  else .integer significand

/- The significand and power of the digits of a numeral. -/
def significandOf
    (whole fraction : Bytes) : Nat × Int :=
  let (number, dropped) := collect wordLimit 0 whole
  let (significand, ignored) :=
    collect wordLimit number fraction
  (significand,
    (dropped.length : Int) + ignored.length - fraction.length)

/- A floating-point number, if it is finite. -/
def floatNumber
    (negative : Bool)
    (significand : Nat)
    (power : Int)
    (rest : Bytes) : Except Failure Number :=
  match floatValue? significand power with
  | some magnitude => .ok (.float negative magnitude)
  | none => .error (.atNext .numberOutOfRange rest)

/-
  The number of a numeral.  An exponent that is not counted
  is out of range behind the digit that is too much, unless
  the number is zero or the exponent negative.
-/
def numberOf
    (negative : Bool)
    (whole : Bytes)
    (fraction : Option Bytes)
    (exponent : Option Exponent)
    (rest : Bytes) : Except Failure Number :=
  let (significand, power) :=
    significandOf whole (fraction.getD [])
  match exponent with
  | some e =>
      let (amount, uncounted) :=
        collect exponentLimit 0 e.digits
      match uncounted with
      | [] =>
          floatNumber negative significand
            (if e.negative then power - amount
              else power + amount)
            rest
      | _ :: more =>
          if significand = 0 ∨ e.negative then
            .ok (.float negative Binary64.zero)
          else
            .error
              (.atNext .numberOutOfRange (more ++ rest))
  | none =>
      if fraction.isNone ∧
          (collect wordLimit 0 whole).2 = [] then
        .ok (integerNumber negative significand)
      else floatNumber negative significand power rest

------------------------------------------------------------
-- Reading and Skipping
------------------------------------------------------------

/- A number behind its sign. -/
def readUnsigned (negative : Bool) : Reader Number := do
  let whole ← wholeDigits
  let fraction ← fractionDigits
  let exponent ← exponentDigits
  fun rest =>
    (numberOf negative whole fraction exponent rest).map
      fun number => (number, rest)

/- A number that begins with a minus or with a digit. -/
def readNumber : Reader Number := fun bytes =>
  match bytes with
  | [] => .error (.atPeek .endInValue [])
  | b :: rest =>
      if b = Mark.minus then readUnsigned true rest
      else readUnsigned false (b :: rest)

/- Skip the whole digits of a number. -/
def skipWhole : Reader Unit := fun bytes =>
  match bytes with
  | [] => .error (.atNext .invalidNumber [])
  | b :: rest =>
      if b = Mark.zero then
        match leadingDigits rest with
        | [] => .ok ((), rest)
        | _ :: _ => .error (.atPeek .invalidNumber rest)
      else if isDigit b then .ok ((), afterDigits rest)
      else .error (.atNext .invalidNumber rest)

/- Skip a point and the digits behind it. -/
def skipFraction : Reader Unit := fun bytes =>
  match bytes with
  | [] => .ok ((), [])
  | b :: rest =>
      if b = Mark.point then
        match leadingDigits rest with
        | [] => .error (.atPeek .invalidNumber rest)
        | _ :: _ => .ok ((), afterDigits rest)
      else .ok ((), b :: rest)

/- Skip an exponent. -/
def skipExponent : Reader Unit := fun bytes =>
  match bytes with
  | [] => .ok ((), [])
  | b :: rest =>
      if isExponentMark b then
        match (exponentSign rest).2 with
        | [] => .error (.atNext .invalidNumber [])
        | digit :: after =>
            if isDigit digit then .ok ((), afterDigits after)
            else .error (.atNext .invalidNumber after)
      else .ok ((), b :: rest)

/- Skip a number, whose size does not matter. -/
def skipNumber : Reader Unit := fun bytes =>
  match bytes with
  | [] => .error (.atNext .invalidNumber [])
  | b :: rest =>
      let unsigned := if b = Mark.minus then rest else b :: rest
      (do
        skipWhole
        skipFraction
        skipExponent : Reader Unit) unsigned

end Json

end NetPlugin
