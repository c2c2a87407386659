import NetPlugin.Text.Ranges

/-
  The Unicode property White_Space.

  Key definitions include:
    * `Text.whiteSpace`
    * `Text.isBlank`
-/

------------------------------------------------------------
-- White Space
------------------------------------------------------------

namespace NetPlugin

namespace Text

/- The twenty-five code points with the property. -/
def whiteSpace : Ranges :=
  [(0x9, 0xD), (0x20, 0x20), (0x85, 0x85), (0xA0, 0xA0),
    (0x1680, 0x1680), (0x2000, 0x200A), (0x2028, 0x2029),
    (0x202F, 0x202F), (0x205F, 0x205F), (0x3000, 0x3000)]

/- Whether a character is Unicode white space. -/
def isBlank (c : Char) : Bool :=
  whiteSpace.contains c.toNat

/- The class reaches beyond the characters of ASCII. -/
example : isBlank '\u00a0' = true := by decide

example : isBlank '\u200b' = false := by decide

end Text

end NetPlugin
