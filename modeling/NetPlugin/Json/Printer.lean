import NetPlugin.Decimal.Shortest
import NetPlugin.Json.Literal
import NetPlugin.Json.Value

/-
  Values as JSON text, on one line or indented.

  A text is produced as a list of pieces, in the order in
  which they are written, so that a writer can fail between
  two of them.

  Key definitions include:
    * `Json.FloatStyle`
    * `Json.Number.text`
    * `Json.Layout`
    * `Json.Value.pieces`
    * `Json.Value.text`
-/

------------------------------------------------------------
-- Numbers
------------------------------------------------------------

namespace NetPlugin

namespace Json

/-
  How a floating-point number is written: the exponents of
  the leading digit between which it has no exponent part.
-/
structure FloatStyle where
  plainFrom : Int
  plainTo : Int

/- From one hundred-thousandth up to sixteen whole digits. -/
def floatStyle : FloatStyle :=
  ⟨-5, 15⟩

/- A decimal integer. -/
def integerText (value : Int) : String :=
  (if value < 0 then "-" else "") ++ Nat.repr value.natAbs

/- Zeros to fill places. -/
def zeros (count : Nat) : List Char :=
  List.replicate count '0'

/-
  Digits whose first one stands at a decimal place, with at
  least one digit on both sides of the point.
-/
def plainText
    (digits : List Char)
    (place : Int) : List Char :=
  if place < 0 then
    '0' :: '.' :: (zeros ((-place).toNat - 1) ++ digits)
  else
    let whole := place.toNat + 1
    if digits.length ≤ whole then
      digits ++ zeros (whole - digits.length) ++ ['.', '0']
    else digits.take whole ++ '.' :: digits.drop whole

/- One digit, a point where more follow, and the exponent. -/
def exponentText
    (digits : List Char)
    (place : Int) : List Char :=
  digits.take 1 ++
    (if digits.length ≤ 1 then [] else '.' :: digits.drop 1) ++
    ['e', if place < 0 then '-' else '+'] ++
    Nat.toDigits 10 place.natAbs

/- Digits without the zeros at their end. -/
def significantDigits (digits : Nat) : List Char :=
  ((Nat.toDigits 10 digits).reverse.dropWhile
    (· == '0')).reverse

/- The shortest digits that read back, in the given style. -/
def floatText
    (style : FloatStyle)
    (magnitude : Binary64) : List Char :=
  if magnitude.isZero then ['0', '.', '0']
  else
    let decimal := magnitude.shortest
    let width := (Nat.toDigits 10 decimal.digits).length
    let place := decimal.exponent + width - 1
    let digits := significantDigits decimal.digits
    if style.plainFrom ≤ place ∧ place ≤ style.plainTo then
      plainText digits place
    else exponentText digits place

/- A number as JSON text. -/
def Number.text : Number → String
  | .integer value => integerText value
  | .float negative magnitude =>
      String.ofList
        ((if negative then ['-'] else []) ++
          floatText floatStyle magnitude)

------------------------------------------------------------
-- Layouts
------------------------------------------------------------

/- Everything on one line, or one member on each line. -/
inductive Layout where
  | compact
  | indented
  deriving DecidableEq, Repr

namespace Layout

/- A line break and two blanks for each open bracket. -/
def lineBreak (depth : Nat) : String :=
  String.ofList ('\n' :: List.replicate (2 * depth) ' ')

/- What stands before an item or a member. -/
def separator
    (layout : Layout)
    (first : Bool)
    (depth : Nat) : String :=
  (if first then "" else ",") ++
    match layout with
    | .compact => ""
    | .indented => lineBreak depth

/- What stands between a key and its value. -/
def colon : Layout → String
  | .compact => ":"
  | .indented => ": "

/- What stands before a closing bracket. -/
def close
    (layout : Layout)
    (depth : Nat) : String :=
  match layout with
  | .compact => ""
  | .indented => lineBreak depth

end Layout

------------------------------------------------------------
-- Values
------------------------------------------------------------

namespace Value

mutual

/- The pieces of a value below some open brackets. -/
def piecesAt
    (layout : Layout)
    (depth : Nat) : Value → List String
  | .null => ["null"]
  | .boolean true => ["true"]
  | .boolean false => ["false"]
  | .number value => [value.text]
  | .string value => [literal value]
  | .array [] => ["[", "]"]
  | .array (item :: rest) =>
      "[" ::
        (itemPieces layout (depth + 1) true (item :: rest) ++
          [layout.close depth, "]"])
  | .object [] => ["\x7b", "\x7d"]
  | .object (member :: rest) =>
      "\x7b" ::
        (memberPieces layout (depth + 1) true
            (member :: rest) ++
          [layout.close depth, "\x7d"])

/- The pieces of the items of an array. -/
def itemPieces
    (layout : Layout)
    (depth : Nat)
    (first : Bool) : List Value → List String
  | [] => []
  | item :: rest =>
      layout.separator first depth ::
        (piecesAt layout depth item ++
          itemPieces layout depth false rest)

/- The pieces of the members of an object. -/
def memberPieces
    (layout : Layout)
    (depth : Nat)
    (first : Bool) : List (String × Value) → List String
  | [] => []
  | (key, value) :: rest =>
      layout.separator first depth ::
        literal key :: layout.colon ::
        (piecesAt layout depth value ++
          memberPieces layout depth false rest)

end

/- The pieces of a document. -/
def pieces
    (layout : Layout)
    (value : Value) : List String :=
  piecesAt layout 0 value

/- A document as one text. -/
def text
    (layout : Layout)
    (value : Value) : String :=
  String.join (value.pieces layout)

/- How messages show a value that they reject. -/
def shown (value : Value) : String :=
  value.canonical.text .compact

/- Sixteen whole digits are written out, twenty are not. -/
example :
    (Value.number
      (.float false (Binary64.ofNat (10 ^ 15)))).shown =
      "1000000000000000.0" := by
  decide +kernel

example :
    (Value.number
      (.float false (Binary64.ofNat (2 ^ 64)))).shown =
      "1.8446744073709552e+19" := by
  decide +kernel

end Value

end Json

end NetPlugin
