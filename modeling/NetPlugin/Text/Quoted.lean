import NetPlugin.Text.Printable

/-
  Quoted text, the form in which messages show a piece of
  input so that its ends and its invisible characters can
  be seen.

  Key definitions include:
    * `Text.Quoted.escape`
    * `Text.Quoted.body`
    * `Text.quote`
    * `Text.quoteList`
-/

------------------------------------------------------------
-- Escapes
------------------------------------------------------------

namespace NetPlugin

namespace Text

namespace Quoted

/- The code point in hexadecimal, without padding. -/
def hexEscape (c : Char) : List Char :=
  ['\\', 'u', '{'] ++ Nat.toDigits 16 c.toNat ++ ['}']

/-
  Quote, backslash and the four common controls have short
  escapes; any other character without a glyph of its own
  is named by its code point.
-/
def escape (c : Char) : List Char :=
  if c = '"' then ['\\', '"']
  else if c = '\\' then ['\\', '\\']
  else if c = '\t' then ['\\', 't']
  else if c = '\n' then ['\\', 'n']
  else if c = '\r' then ['\\', 'r']
  else if c = '\x00' then ['\\', '0']
  else if isExtending c || !isPrintable c then hexEscape c
  else [c]

/- The escaped characters between the two quotes. -/
def body (text : List Char) : List Char :=
  text.flatMap escape

end Quoted

------------------------------------------------------------
-- Quoting
------------------------------------------------------------

/- A text between quotes, with its escapes. -/
def quote (text : String) : String :=
  String.ofList
    ('"' :: (Quoted.body text.toList ++ ['"']))

/- Texts as a bracketed list with commas. -/
def quoteList (texts : List String) : String :=
  "[" ++ ", ".intercalate (texts.map quote) ++ "]"

/- The apostrophe is kept, the double quote is escaped. -/
example : quote "it's \"a\"\n" = "\"it's \\\"a\\\"\\n\"" := by
  decide +kernel

end Text

end NetPlugin
