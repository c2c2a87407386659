/-
  Splitting a sequence at a separator, and joining the
  pieces again.  The sequences are texts or bytes.

  Key definitions include:
    * `Text.segments`
    * `Text.joined`
    * `Text.SplitsInto`
-/

------------------------------------------------------------
-- Segments
------------------------------------------------------------

namespace NetPlugin

namespace Text

variable {α : Type}

/- Pieces with a separator between each two of them. -/
def joined (separator : α) :
    List (List α) → List α
  | [] => []
  | [piece] => piece
  | piece :: next :: rest =>
      piece ++ separator :: joined separator (next :: rest)

variable [DecidableEq α]

/-
  The pieces between the separators.  There is always one
  more of them than there are separators.
-/
def segments (separator : α) :
    List α → List (List α)
  | [] => [[]]
  | c :: rest =>
      if c = separator then [] :: segments separator rest
      else
        match segments separator rest with
        | [] => [[c]]
        | first :: more => (c :: first) :: more

/- There is at least one segment. -/
theorem segments_ne_nil
    (separator : α)
    (text : List α) :
    segments separator text ≠ [] := by
  cases text with
  | nil => simp [segments]
  | cons c rest =>
      rw [segments]
      split
      · simp
      · split <;> simp

/- Joining the segments gives the text back. -/
theorem joined_segments
    (separator : α)
    (text : List α) :
    joined separator (segments separator text) = text := by
  induction text with
  | nil => rfl
  | cons c rest ih =>
      rw [segments]
      by_cases hSeparator : c = separator
      · rw [if_pos hSeparator]
        cases hRest : segments separator rest with
        | nil => exact absurd hRest (segments_ne_nil _ _)
        | cons first more =>
            rw [hRest] at ih
            simp [joined, ih, hSeparator]
      · rw [if_neg hSeparator]
        cases hRest : segments separator rest with
        | nil => exact absurd hRest (segments_ne_nil _ _)
        | cons first more =>
            rw [hRest] at ih
            cases more with
            | nil => simpa [joined] using ih
            | cons second others =>
                simpa [joined] using ih

/- No segment holds the separator. -/
theorem not_mem_of_mem_segments
    {separator : α}
    {text segment : List α}
    (hSegment : segment ∈ segments separator text) :
    separator ∉ segment := by
  induction text generalizing segment with
  | nil =>
      simp [segments] at hSegment
      simp [hSegment]
  | cons c rest ih =>
      rw [segments] at hSegment
      by_cases hSeparator : c = separator
      · rw [if_pos hSeparator] at hSegment
        rcases List.mem_cons.1 hSegment with hEmpty | hRest
        · simp [hEmpty]
        · exact ih hRest
      · rw [if_neg hSeparator] at hSegment
        cases hRest : segments separator rest with
        | nil => exact absurd hRest (segments_ne_nil _ _)
        | cons first more =>
            rw [hRest] at hSegment ih
            rcases List.mem_cons.1 hSegment with hFirst | hMore
            · subst hFirst
              have hNot := ih (List.mem_cons_self ..)
              simp only [List.mem_cons, not_or]
              exact ⟨fun hEq => hSeparator hEq.symm, hNot⟩
            · exact ih (List.mem_cons_of_mem _ hMore)

/- A text without the separator is one segment. -/
theorem segments_of_not_mem
    {separator : α}
    {text : List α}
    (hNot : separator ∉ text) :
    segments separator text = [text] := by
  induction text with
  | nil => rfl
  | cons c rest ih =>
      simp only [List.mem_cons, not_or] at hNot
      have hOther : c ≠ separator :=
        fun hEq => hNot.1 hEq.symm
      rw [segments, if_neg hOther, ih hNot.2]

/- A separator ends the segment in front of it. -/
theorem segments_append_cons
    {separator : α}
    {piece : List α}
    (hNot : separator ∉ piece)
    (text : List α) :
    segments separator (piece ++ separator :: text) =
      piece :: segments separator text := by
  induction piece with
  | nil => simp [segments]
  | cons c rest ih =>
      simp only [List.mem_cons, not_or] at hNot
      have hOther : c ≠ separator :=
        fun hEq => hNot.1 hEq.symm
      rw [List.cons_append, segments, if_neg hOther,
        ih hNot.2]

/- There is one more segment than there are separators. -/
theorem length_segments
    (separator : α)
    (text : List α) :
    (segments separator text).length =
      text.count separator + 1 := by
  induction text with
  | nil => rfl
  | cons c rest ih =>
      rw [segments]
      by_cases hSeparator : c = separator
      · rw [if_pos hSeparator, List.length_cons, ih,
          hSeparator, List.count_cons_self]
      · rw [if_neg hSeparator,
          List.count_cons_of_ne hSeparator, ← ih]
        cases hRest : segments separator rest with
        | nil => exact absurd hRest (segments_ne_nil _ _)
        | cons first more => rfl

/- Pieces without the separator are got back. -/
theorem segments_joined
    {separator : α}
    {pieces : List (List α)}
    (hSome : pieces ≠ [])
    (hNot : ∀ piece ∈ pieces, separator ∉ piece) :
    segments separator (joined separator pieces) =
      pieces := by
  induction pieces with
  | nil => exact absurd rfl hSome
  | cons piece rest ih =>
      have hPiece : separator ∉ piece :=
        hNot piece (List.mem_cons_self ..)
      cases rest with
      | nil => exact segments_of_not_mem hPiece
      | cons next more =>
          have hRest :
              ∀ other ∈ next :: more, separator ∉ other := by
            intro other hOther
            exact hNot other (List.mem_cons_of_mem _ hOther)
          rw [joined, segments_append_cons hPiece]
          exact congrArg _ (ih (by simp) hRest)

/-
  Pieces that a text consists of: there is a separator
  between each two of them, and none inside.
-/
structure SplitsInto
    (separator : α)
    (text : List α)
    (pieces : List (List α)) : Prop where
  ne_nil : pieces ≠ []
  joined_eq : joined separator pieces = text
  not_mem : ∀ piece ∈ pieces, separator ∉ piece

/- There is one way to split a text. -/
theorem splitsInto_iff
    (separator : α)
    (text : List α)
    (pieces : List (List α)) :
    SplitsInto separator text pieces ↔
      pieces = segments separator text := by
  constructor
  · rintro ⟨hSome, rfl, hNot⟩
    exact (segments_joined hSome hNot).symm
  · rintro rfl
    exact
      ⟨segments_ne_nil separator text,
        joined_segments separator text,
        fun _ => not_mem_of_mem_segments⟩

end Text

end NetPlugin
