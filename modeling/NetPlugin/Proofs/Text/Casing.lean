/-
  Capitals and small letters among the first 128 characters.

  Texts that are compared as capitals are compared as small
  letters just as well.

  Main declarations:
    * `Casing.toNat_toUpper` and `Casing.toNat_toLower`
    * `Casing.IsCapital` and `Casing.toUpper_eq_iff`
    * `Casing.map_toUpper_eq_iff`
-/

------------------------------------------------------------
-- Letters
------------------------------------------------------------

namespace NetPlugin

namespace Casing

/- Small letters are 32 places behind their capitals. -/
theorem toNat_toUpper (letter : Char) :
    letter.toUpper.toNat =
      if 97 ≤ letter.toNat ∧ letter.toNat ≤ 122 then
        letter.toNat - 32
      else letter.toNat := by
  by_cases hSmall : 97 ≤ letter.toNat ∧ letter.toNat ≤ 122
  · have hRange :
        'a'.val ≤ letter.val ∧ letter.val ≤ 'z'.val := by
      simpa [UInt32.le_iff_toNat_le] using hSmall
    delta Char.toUpper
    rw [if_pos hSmall, dif_pos hRange]
    -- The distance is added as what is missing to 2 ^ 32.
    show (letter.val + 4294967264).toNat =
      letter.val.toNat - 32
    rw [UInt32.toNat_add]
    simp only [Char.toNat, UInt32.reduceToNat] at hSmall ⊢
    omega
  · have hRange :
        ¬ ('a'.val ≤ letter.val ∧ letter.val ≤ 'z'.val) := by
      simpa [UInt32.le_iff_toNat_le] using hSmall
    delta Char.toUpper
    rw [if_neg hSmall, dif_neg hRange]

theorem toNat_toLower (letter : Char) :
    letter.toLower.toNat =
      if 65 ≤ letter.toNat ∧ letter.toNat ≤ 90 then
        letter.toNat + 32
      else letter.toNat := by
  by_cases hCapital : 65 ≤ letter.toNat ∧ letter.toNat ≤ 90
  · have hRange :
        letter.val ≥ 'A'.val ∧ letter.val ≤ 'Z'.val := by
      simpa [UInt32.le_iff_toNat_le] using hCapital
    delta Char.toLower
    rw [if_pos hCapital, dif_pos hRange]
    show (letter.val + 32).toNat = letter.val.toNat + 32
    rw [UInt32.toNat_add]
    simp only [Char.toNat, UInt32.reduceToNat] at hCapital ⊢
    omega
  · have hRange :
        ¬ (letter.val ≥ 'A'.val ∧ letter.val ≤ 'Z'.val) := by
      simpa [UInt32.le_iff_toNat_le] using hCapital
    delta Char.toLower
    rw [if_neg hCapital, dif_neg hRange]

/- The capitals from A to Z. -/
def IsCapital (letter : Char) : Prop :=
  65 ≤ letter.toNat ∧ letter.toNat ≤ 90

/- Becoming a capital is becoming its small letter. -/
theorem toUpper_eq_iff
    {letter capital : Char}
    (hCapital : IsCapital capital) :
    letter.toUpper = capital ↔
      letter.toLower = capital.toLower := by
  unfold IsCapital at hCapital
  rw [← Char.toNat_inj, ← Char.toNat_inj, toNat_toUpper,
    toNat_toLower, toNat_toLower, if_pos hCapital]
  split <;> split <;> omega

------------------------------------------------------------
-- Texts
------------------------------------------------------------

theorem map_toUpper_eq_iff
    (text : List Char)
    {capitals : List Char}
    (hCapitals : ∀ capital ∈ capitals, IsCapital capital) :
    text.map Char.toUpper = capitals ↔
      text.map Char.toLower = capitals.map Char.toLower := by
  induction capitals generalizing text with
  | nil => simp
  | cons capital rest ih =>
      rw [List.forall_mem_cons] at hCapitals
      cases text with
      | nil => simp
      | cons letter more =>
          simp [toUpper_eq_iff hCapitals.1,
            ih more hCapitals.2]

end Casing

end NetPlugin
