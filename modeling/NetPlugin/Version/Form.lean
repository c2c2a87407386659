import NetPlugin.Json.Record
import NetPlugin.Version.Token

/-
  The JSON form of a version token, which is its text.

  Key definitions include:
    * `Version.Token.toJson`
    * `Version.Token.read`
    * `Version.Token.ofJson`
-/

------------------------------------------------------------
-- Tokens in JSON
------------------------------------------------------------

namespace NetPlugin

namespace Version

namespace Token

/- The JSON form. -/
def toJson (token : Token) : Json.Value :=
  .string token.text

/- A token among other values. -/
def read : Json.Reader Token := do
  let text ← Json.readText
  pure ⟨text⟩

/- The token of a whole JSON document. -/
def ofJson
    (input : Bytes) : Except Json.ReadError Token :=
  Json.readDocument read input

end Token

end Version

end NetPlugin
