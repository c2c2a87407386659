/-
  Character classes given as sorted ranges of code points.

  Key definitions include:
    * `Ranges`
    * `Ranges.contains`
    * `Ranges.Increasing`
-/

------------------------------------------------------------
-- Ranges of Code Points
------------------------------------------------------------

namespace NetPlugin

namespace Text

/- Closed ranges, each given by its first and last point. -/
abbrev Ranges :=
  List (Nat × Nat)

namespace Ranges

/-
  Membership in increasing ranges.  The search ends at the
  first range above the point, so that the common small
  code points never walk a whole table.
-/
def contains : Ranges → Nat → Bool
  | [], _ => false
  | (low, high) :: rest, point =>
      if point < low then false
      else if point ≤ high then true
      else contains rest point

/- Every range is non-empty and ends before the next one. -/
def Increasing : Ranges → Prop
  | [] => True
  | (low, high) :: rest =>
      low ≤ high ∧
        (∀ next ∈ rest, high < next.1) ∧
        Increasing rest

/-
  On increasing ranges the early end of the search loses
  nothing.
-/
theorem contains_iff
    {ranges : Ranges}
    (hIncreasing : Increasing ranges)
    (point : Nat) :
    contains ranges point = true ↔
      ∃ range ∈ ranges,
        range.1 ≤ point ∧ point ≤ range.2 := by
  induction ranges with
  | nil => simp [contains]
  | cons range rest ih =>
      rcases range with ⟨low, high⟩
      rcases hIncreasing with ⟨hLow, hNext, hRest⟩
      rw [contains]
      split
      · rename_i hBelow
        constructor
        · simp
        · rintro ⟨found, hFound, hFrom, hTo⟩
          rcases List.mem_cons.1 hFound with hEq | hMem
          · subst hEq
            exact absurd hFrom (by simp; omega)
          · have hAbove := hNext found hMem
            omega
      · rename_i hNotBelow
        split
        · rename_i hWithin
          constructor
          · intro _
            exact ⟨(low, high), by simp, by
              simp; omega⟩
          · simp
        · rename_i hAbove
          rw [ih hRest]
          constructor
          · rintro ⟨found, hFound, hBounds⟩
            exact ⟨found, by simp [hFound], hBounds⟩
          · rintro ⟨found, hFound, hFrom, hTo⟩
            rcases List.mem_cons.1 hFound with hEq | hMem
            · subst hEq
              exact absurd hTo (by simp; omega)
            · exact ⟨found, hMem, hFrom, hTo⟩

end Ranges

end Text

end NetPlugin
