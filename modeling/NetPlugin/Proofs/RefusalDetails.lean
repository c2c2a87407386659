import NetPlugin.Negotiation
import NetPlugin.Proofs.Text.Quoted

/-
  The details of a refusal tell which versions it is about.

  Tokens are quoted in the details, and their list is
  bracketed, so that no token can be mistaken for more than
  itself, whatever it consists of.

  Main declarations:
    * `Refusal.quotedTokens`
    * `Refusal.toList_details`
    * `Refusal.details_tell_apart`
-/

------------------------------------------------------------
-- Details as Characters
------------------------------------------------------------

namespace NetPlugin

namespace Refusal

/- The supported tokens as they stand in the brackets. -/
def quotedTokens (tokens : List Version.Token) : List Char :=
  (" ".intercalate
    ((tokens.map (·.text)).map Text.quote)).toList

theorem toList_details (e : Refusal) :
    e.details.toList =
      "config is ".toList ++
        ((Text.quote e.config.text).toList ++
          (", plugin supports [".toList ++
            (quotedTokens e.supported ++ [']']))) := by
  unfold details quotedTokens
  rw [List.map_map]
  simp only [String.toList_append, List.append_assoc]
  rfl

/- Tokens are what their texts are. -/
theorem map_text_inj
    {tokens others : List Version.Token}
    (hTexts : tokens.map (·.text) = others.map (·.text)) :
    tokens = others := by
  refine (List.map_inj_right ?_).1 hTexts
  rintro ⟨text⟩ ⟨other⟩ hText
  exact congrArg Version.Token.mk hText

/- Both parts are found where the quotes end. -/
theorem parts_of_details
    {a b : Refusal}
    (hDetails : a.details = b.details) :
    a.config = b.config ∧ a.supported = b.supported := by
  have hSame := congrArg String.toList hDetails
  rw [toList_details, toList_details] at hSame
  rcases Text.quote_append_inj
      (List.append_cancel_left hSame) with
    ⟨hConfig, hBehind⟩
  rcases Text.intercalate_quote_append_inj
      (List.append_cancel_left hBehind) with
    ⟨hSupported, _⟩
  exact
    ⟨congrArg Version.Token.mk hConfig,
      map_text_inj hSupported⟩

------------------------------------------------------------
-- Refusals
------------------------------------------------------------

/-
  Two refusals have the same details only if they are about
  the same version of a configuration and the same list of
  supported ones, and so have the errors that they are
  reported as.
-/
theorem details_tell_apart (a b : Refusal) :
    (a.details = b.details ↔
        a.config = b.config ∧ a.supported = b.supported) ∧
      (Negotiation.notReconciled a =
          Negotiation.notReconciled b ↔
        a.config = b.config ∧ a.supported = b.supported) := by
  have hEqual :
      a.config = b.config ∧ a.supported = b.supported →
        a = b := by
    rcases a with ⟨config, supported⟩
    rintro ⟨rfl, rfl⟩
    rfl
  constructor
  · constructor
    · exact parts_of_details
    · intro hParts
      rw [hEqual hParts]
  · constructor
    · intro hErrors
      exact
        parts_of_details (congrArg PluginError.details hErrors)
    · intro hParts
      rw [hEqual hParts]

end Refusal

end NetPlugin
