import NetPlugin.Stream.Source

/-
  What one reading takes from a source.

  A reading takes the items up to and including the first
  one that ends it, which is a mark of the end of the file
  or a failure other than an interruption.  It gives the
  bytes of what it takes.

  Main declarations:
    * `Source.Item.EndsReading`
    * `Source.taken`, `Source.left` and `taken_append_left`
    * `Source.end?`
    * `Source.readToEnd_result` and `readToEnd_rest`
-/

------------------------------------------------------------
-- Items
------------------------------------------------------------

namespace NetPlugin

namespace Source

/- The bytes that an item gives. -/
def Item.bytes : Item → Bytes
  | .chunk bytes => bytes
  | .failure _ => []
  | .endOfFile => []

/- An item behind which a reading takes nothing. -/
def Item.EndsReading (item : Item) : Prop :=
  item = .endOfFile ∨
    ∃ e, item = .failure e ∧ e.isInterruption = false

/- The bytes of the chunks of a source. -/
def bytes (source : Source) : Bytes :=
  source.flatMap Item.bytes

instance (item : Item) : Decidable item.EndsReading :=
  match item with
  | .chunk _ =>
      isFalse (by simp [Item.EndsReading])
  | .failure e =>
      if hInterruption : e.isInterruption = true then
        isFalse (by simp [Item.EndsReading, hInterruption])
      else
        isTrue (Or.inr ⟨e, rfl, by simpa using hInterruption⟩)
  | .endOfFile => isTrue (Or.inl rfl)

------------------------------------------------------------
-- Parts of Sources
------------------------------------------------------------

/- The first item that ends a reading, if there is one. -/
def end? (source : Source) : Option Item :=
  source.find? fun item => decide item.EndsReading

/- The items that a reading takes. -/
def taken : Source → Source
  | [] => []
  | item :: rest =>
      if item.EndsReading then [item] else item :: taken rest

/- The items that it leaves. -/
def left : Source → Source
  | [] => []
  | item :: rest =>
      if item.EndsReading then rest else left rest

/- Nothing is lost between the two parts. -/
theorem taken_append_left (source : Source) :
    source.taken ++ source.left = source := by
  induction source with
  | nil => rfl
  | cons item rest ih =>
      unfold taken left
      split
      · rfl
      · rw [List.cons_append, ih]

/- Only the last item that is taken can end a reading. -/
theorem taken_eq_of_end?
    {source : Source}
    {item : Item}
    (hEnd : source.end? = some item) :
    ∃ before, source.taken = before ++ [item] ∧
      ∀ earlier ∈ before, ¬ earlier.EndsReading := by
  induction source with
  | nil => cases hEnd
  | cons first rest ih =>
      unfold taken
      unfold end? at hEnd
      by_cases hFirst : first.EndsReading
      · rw [List.find?_cons_of_pos (by simpa)] at hEnd
        cases hEnd
        rw [if_pos hFirst]
        exact ⟨[], rfl, by simp⟩
      · rw [List.find?_cons_of_neg (by simpa)] at hEnd
        rw [if_neg hFirst]
        rcases ih hEnd with ⟨before, hTaken, hBefore⟩
        refine ⟨first :: before, by rw [hTaken]; rfl, ?_⟩
        intro earlier hEarlier
        rcases List.mem_cons.1 hEarlier with rfl | hEarlier
        · exact hFirst
        · exact hBefore earlier hEarlier

/- Without an end everything is taken. -/
theorem taken_eq_self
    {source : Source}
    (hEnd : source.end? = none) :
    source.taken = source ∧ source.left = [] := by
  induction source with
  | nil => exact ⟨rfl, rfl⟩
  | cons first rest ih =>
      unfold taken left
      unfold end? at hEnd
      by_cases hFirst : first.EndsReading
      · rw [List.find?_cons_of_pos (by simpa)] at hEnd
        cases hEnd
      · rw [List.find?_cons_of_neg (by simpa)] at hEnd
        rw [if_neg hFirst, if_neg hFirst, (ih hEnd).1]
        exact ⟨rfl, (ih hEnd).2⟩

------------------------------------------------------------
-- Readings
------------------------------------------------------------

/- An item that ends a reading gives its failure, if any. -/
theorem readToEnd_of_endsReading
    {item : Item}
    (hItem : item.EndsReading)
    (rest : Source) :
    readToEnd (item :: rest) =
      (match item with
        | .failure e => .error e
        | _ => .ok [], rest) := by
  rcases hItem with rfl | ⟨e, rfl, hFailure⟩
  · rfl
  · simp [readToEnd, hFailure]

/- Behind any other item the reading goes on. -/
theorem readToEnd_of_not_endsReading
    {item : Item}
    (hItem : ¬ item.EndsReading)
    (rest : Source) :
    readToEnd (item :: rest) =
      (rest.readToEnd.1.map (item.bytes ++ ·),
        rest.readToEnd.2) := by
  cases item with
  | chunk bytes => rfl
  | failure e =>
      have hInterruption : e.isInterruption = true := by
        simpa [Item.EndsReading] using hItem
      rw [readToEnd, if_pos hInterruption]
      cases hRead : rest.readToEnd with
      | mk result after => cases result <;> rfl
  | endOfFile => exact absurd (Or.inl rfl) hItem

/- What a reading leaves. -/
theorem readToEnd_rest (source : Source) :
    source.readToEnd.2 = source.left := by
  induction source with
  | nil => rfl
  | cons item rest ih =>
      unfold left
      by_cases hItem : item.EndsReading
      · rw [readToEnd_of_endsReading hItem, if_pos hItem]
      · rw [readToEnd_of_not_endsReading hItem,
          if_neg hItem]
        exact ih

/-
  A reading gives the bytes of what it takes, unless it is
  ended by a failure.
-/
theorem readToEnd_result (source : Source) :
    source.readToEnd.1 =
      match source.end? with
      | some (.failure e) => .error e
      | _ => .ok source.taken.bytes := by
  induction source with
  | nil => rfl
  | cons item rest ih =>
      unfold end? taken
      by_cases hItem : item.EndsReading
      · rw [readToEnd_of_endsReading hItem, if_pos hItem,
          List.find?_cons_of_pos (by simpa)]
        rcases hItem with rfl | ⟨e, rfl, _⟩ <;> rfl
      · rw [readToEnd_of_not_endsReading hItem,
          if_neg hItem, List.find?_cons_of_neg (by simpa),
          ih]
        unfold end?
        split
        · rfl
        · rfl

theorem readToEnd_eq_ok
    {source : Source}
    {config : Bytes}
    (hRead : source.readToEnd.1 = .ok config) :
    config = source.taken.bytes := by
  rw [readToEnd_result] at hRead
  split at hRead
  · cases hRead
  · exact (Except.ok.inj hRead).symm

theorem readToEnd_eq_error
    {source : Source}
    {e : IoError}
    (hEnd : source.end? = some (.failure e)) :
    source.readToEnd.1 = .error e := by
  rw [readToEnd_result, hEnd]

------------------------------------------------------------
-- Marks
------------------------------------------------------------

/-
  How many readings can still give something: one up to
  each of the marks, and one of what is left.
-/
def readings (source : Source) : Nat :=
  source.count .endOfFile + if source = [] then 0 else 1

theorem readings_le (source : Source) :
    source.readings ≤ source.count .endOfFile + 1 := by
  unfold readings
  split <;> omega

theorem readings_of_ne_nil
    {source : Source}
    (hSource : source ≠ []) :
    source.readings = source.count .endOfFile + 1 := by
  unfold readings
  rw [if_neg hSource]

/- The marks of a source are in its two parts. -/
theorem count_eq (source : Source) :
    source.count .endOfFile =
      source.taken.count .endOfFile +
        source.left.count .endOfFile := by
  rw [← List.count_append, taken_append_left]

/- A reading adds no readings. -/
theorem readings_left_le (source : Source) :
    source.left.readings ≤ source.readings := by
  by_cases hLeft : source.left = []
  · simp [hLeft, readings]
  · have hSource : source ≠ [] := by
      rintro rfl
      exact hLeft rfl
    have hCount := source.count_eq
    rw [readings_of_ne_nil hLeft, readings_of_ne_nil hSource]
    omega

/-
  A reading that gives something is one less: it was ended
  by a mark, or nothing is left.
-/
theorem readings_left_lt
    {source : Source}
    {config : Bytes}
    (hRead : source.readToEnd.1 = .ok config)
    (hConfig : config ≠ []) :
    source.left.readings < source.readings := by
  have hSource : source ≠ [] := by
    rintro rfl
    exact hConfig (readToEnd_eq_ok hRead)
  rw [readings_of_ne_nil hSource]
  cases hEnd : source.end? with
  | none =>
      rw [(taken_eq_self hEnd).2]
      simp [readings]
  | some item =>
      have hEnds : item.EndsReading := by
        simpa using List.find?_some hEnd
      -- A failure would have been the result.
      rcases hEnds with rfl | ⟨e, rfl, _⟩
      · rcases taken_eq_of_end? hEnd with
          ⟨before, hTaken, _⟩
        have hCount := source.count_eq
        have hLeft := source.left.readings_le
        rw [hTaken, List.count_append,
          List.count_singleton_self] at hCount
        omega
      · rw [readToEnd_eq_error hEnd] at hRead
        cases hRead

end Source

end NetPlugin
