import NetPlugin.Text.Segments
import NetPlugin.Version.Error

/-
  Version tokens and their order.

  A token is kept as it was written and is compared exactly
  where it is looked up; its order is that of the three
  numbers it is written for.

  Key definitions include:
    * `Version.Token`
    * `Version.Triple`
    * `Version.Triple.atLeast`
    * `Version.Token.triple`
    * `Version.Token.atLeast`
-/

------------------------------------------------------------
-- Tokens
------------------------------------------------------------

namespace NetPlugin

namespace Version

/- A version as it appears on the wire. -/
structure Token where
  text : String
  deriving DecidableEq, Repr

/- The revision this library implements. -/
def current : Token := ⟨"1.1.0"⟩

/- Every published revision, oldest first. -/
def published : List Token :=
  [⟨"0.1.0"⟩, ⟨"0.2.0"⟩, ⟨"0.3.0"⟩, ⟨"0.3.1"⟩, ⟨"0.4.0"⟩,
    ⟨"1.0.0"⟩, ⟨"1.1.0"⟩]

/- The revisions before structured results. -/
def legacy : List Token :=
  [⟨"0.1.0"⟩, ⟨"0.2.0"⟩]

/- The version of a configuration that declares none. -/
def implicit : Token := ⟨"0.1.0"⟩

/- The first revision that defines CHECK. -/
def checkFloor : Token := ⟨"0.4.0"⟩

/- The first revision that defines GC. -/
def gcFloor : Token := ⟨"1.1.0"⟩

------------------------------------------------------------
-- Triples
------------------------------------------------------------

/- The numbers of a version. -/
structure Triple where
  major : UInt64
  minor : UInt64
  micro : UInt64
  deriving DecidableEq, Repr

/- The first number that differs decides. -/
def Triple.atLeast (a b : Triple) : Bool :=
  if a.major ≠ b.major then b.major < a.major
  else if a.minor ≠ b.minor then b.minor < a.minor
  else b.micro ≤ a.micro

/- The numbers of the version that an empty token means. -/
def implicitTriple : Triple := ⟨0, 1, 0⟩

------------------------------------------------------------
-- Parts
------------------------------------------------------------

/- The digits of a part, behind an optional plus. -/
def partDigits : List Char → List Char
  | [] => []
  | c :: rest => if c = '+' then rest else c :: rest

/- The number that digits are written for. -/
def digitsValue (digits : List Char) : Nat :=
  digits.foldl
    (fun value c => value * 10 + (c.toNat - 0x30)) 0

/-
  The number of a part: at least one digit behind an
  optional plus, and no more than 64 bits.
-/
def partValue? (text : List Char) : Option UInt64 :=
  let digits := partDigits text
  if digits ≠ [] ∧ digits.all Char.isDigit then
    if hFits : digitsValue digits < UInt64.size then
      some (UInt64.ofNatLT (digitsValue digits) hFits)
    else none
  else none

/- The number of a part, or the part and its text. -/
def partValue
    (part : Part)
    (text : List Char) : Except VersionError UInt64 :=
  match partValue? text with
  | some value => .ok value
  | none => .error (.invalidPart part (String.ofList text))

------------------------------------------------------------
-- Numbers of Tokens
------------------------------------------------------------

namespace Token

/-
  The numbers of a token.  Missing ones are zero, and an
  empty token is the implicit version; otherwise the
  leftmost invalid part is reported.
-/
def triple (token : Token) : Except VersionError Triple :=
  if token.text = "" then .ok implicitTriple
  else
    match Text.segments '.' token.text.toList with
    | [] => .ok ⟨0, 0, 0⟩
    | [a] => do
        let major ← partValue .major a
        pure ⟨major, 0, 0⟩
    | [a, b] => do
        let major ← partValue .major a
        let minor ← partValue .minor b
        pure ⟨major, minor, 0⟩
    | [a, b, c] => do
        let major ← partValue .major a
        let minor ← partValue .minor b
        let micro ← partValue .micro c
        pure ⟨major, minor, micro⟩
    | _ => .error (.tooManyParts token.text)

/- Whether a token is at or above another one. -/
def atLeast
    (token other : Token) : Except VersionError Bool := do
  let a ← token.triple
  let b ← other.triple
  pure (a.atLeast b)

end Token

/- An equal version may be written in another way. -/
example :
    ((Token.mk "+1").atLeast ⟨"01.0"⟩).toOption =
      some true := by
  decide +kernel

end Version

end NetPlugin
