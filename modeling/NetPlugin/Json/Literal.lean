/-
  String literals as JSON text.

  Only the quote, the backslash and the controls below
  U+0020 are escaped; every other character stands for
  itself.

  Key definitions include:
    * `Json.Literal.escape`
    * `Json.Literal.body`
    * `Json.literal`
-/

------------------------------------------------------------
-- Escapes
------------------------------------------------------------

namespace NetPlugin

namespace Json

namespace Literal

/- The digits of a control character, in two places. -/
def controlEscape (c : Char) : List Char :=
  ['\\', 'u', '0', '0',
    Nat.digitChar (c.toNat / 16), Nat.digitChar (c.toNat % 16)]

/- One character inside a literal. -/
def escape (c : Char) : List Char :=
  if c = '"' then ['\\', '"']
  else if c = '\\' then ['\\', '\\']
  else if c = '\x08' then ['\\', 'b']
  else if c = '\t' then ['\\', 't']
  else if c = '\n' then ['\\', 'n']
  else if c = '\x0c' then ['\\', 'f']
  else if c = '\r' then ['\\', 'r']
  else if c.toNat < 0x20 then controlEscape c
  else [c]

/- The characters between the two quotes. -/
def body (text : List Char) : List Char :=
  text.flatMap escape

@[simp]
theorem body_nil : body [] = [] := rfl

@[simp]
theorem body_cons
    (c : Char)
    (text : List Char) :
    body (c :: text) = escape c ++ body text := rfl

end Literal

------------------------------------------------------------
-- Literals
------------------------------------------------------------

/- A text as a JSON string. -/
def literal (text : String) : String :=
  String.ofList
    ('"' :: (Literal.body text.toList ++ ['"']))

/- A solidus is not escaped, a control is. -/
example : literal "a/\x1f\n" = "\"a/\\u001f\\n\"" := by
  decide +kernel

end Json

end NetPlugin
