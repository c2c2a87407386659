import NetPlugin.PluginError
import NetPlugin.Text.Segments

/-
  The arguments that a runtime passes through to a plugin:
  pairs of a key and a value, separated by semicolons.

  Key definitions include:
    * `ArgPairs.parse`
    * `ArgPairs.render`
-/

------------------------------------------------------------
-- Reading
------------------------------------------------------------

namespace NetPlugin

namespace ArgPairs

/- How a segment that is no pair is reported. -/
def invalid (segment : List Char) : PluginError :=
  { code := .invalidEnvironment
    message :=
      "ARGS: invalid pair " ++
        Text.quote (String.ofList segment) }

/- A segment with exactly one equals sign. -/
def pairOf? (segment : List Char) : Option (String × String) :=
  match Text.segments '=' segment with
  | [key, value] =>
      some (String.ofList key, String.ofList value)
  | _ => none

/- The pairs of segments, up to the first that is none. -/
def pairsOf :
    List (List Char) →
      Except PluginError (List (String × String))
  | [] => .ok []
  | segment :: rest =>
      match pairOf? segment with
      | none => .error (invalid segment)
      | some pair => (pairsOf rest).map (pair :: ·)

/- The pairs of a text; an empty text has none. -/
def parse
    (text : String) :
    Except PluginError (List (String × String)) :=
  if text = "" then .ok []
  else pairsOf (Text.segments ';' text.toList)

------------------------------------------------------------
-- Writing
------------------------------------------------------------

/- A pair as text. -/
def renderPair (pair : String × String) : List Char :=
  pair.1.toList ++ '=' :: pair.2.toList

/- Pairs as text. -/
def render (pairs : List (String × String)) : String :=
  String.ofList (Text.joined ';' (pairs.map renderPair))

end ArgPairs

end NetPlugin
