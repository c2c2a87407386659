import NetPlugin.Args

/-
  Pairs of keys and values, and the texts that they are
  written as.

  A text is read as pairs if every segment of it has exactly
  one equals sign.  The pairs that are read are those that
  are written as this text, so that reading and writing are
  inverse to each other.  The empty text is written for no
  pairs at all, and not for one empty segment.

  Main declarations:
    * `ArgPairs.IsPlain` and `ArgPairs.ArePlain`
    * `ArgPairs.IsLeftmostInvalid`
    * `ArgPairs.pairOf?_eq_some_iff`
    * `ArgPairs.parse_eq_ok_iff` and `parse_eq_error_iff`
    * `ArgPairs.ReadsAsPairs`
    * `Args.pairs_read_as_written`
-/

------------------------------------------------------------
-- Texts of Keys and Values
------------------------------------------------------------

namespace NetPlugin

namespace ArgPairs

/- A key or a value that holds no separator. -/
structure IsPlain (text : String) : Prop where
  no_semicolon : ';' ∉ text.toList
  no_equals : '=' ∉ text.toList

/- Every key and every value is plain. -/
def ArePlain (pairs : List (String × String)) : Prop :=
  ∀ pair ∈ pairs, IsPlain pair.1 ∧ IsPlain pair.2

/-
  The leftmost segment of a text that does not have exactly
  one equals sign.
-/
def IsLeftmostInvalid
    (text : String)
    (segment : List Char) : Prop :=
  ∃ before after,
    Text.SplitsInto ';' text.toList
        (before ++ segment :: after) ∧
      (∀ piece ∈ before, piece.count '=' = 1) ∧
      segment.count '=' ≠ 1

------------------------------------------------------------
-- One Pair
------------------------------------------------------------

/- A pair is read from the segment that is written for it. -/
theorem pairOf?_eq_some_iff
    (segment : List Char)
    (pair : String × String) :
    pairOf? segment = some pair ↔
      '=' ∉ pair.1.toList ∧ '=' ∉ pair.2.toList ∧
        renderPair pair = segment := by
  rcases pair with ⟨key, value⟩
  have hSplit :=
    Text.splitsInto_iff '=' segment [key.toList, value.toList]
  constructor
  · intro hPair
    unfold pairOf? at hPair
    split at hPair
    · rename_i before after hSegments
      cases hPair
      simp only [String.toList_ofList] at hSplit ⊢
      rcases hSplit.2 hSegments.symm with ⟨_, hJoined, hNot⟩
      rw [List.forall_mem_cons, List.forall_mem_singleton]
        at hNot
      simp only [renderPair, String.toList_ofList]
      exact ⟨hNot.1, hNot.2, hJoined⟩
    · cases hPair
  · rintro ⟨hKey, hValue, hSegment⟩
    have hParts :
        Text.SplitsInto '=' segment
          [key.toList, value.toList] := by
      refine ⟨List.cons_ne_nil _ _, hSegment, ?_⟩
      rw [List.forall_mem_cons, List.forall_mem_singleton]
      exact ⟨hKey, hValue⟩
    unfold pairOf?
    rw [← hSplit.1 hParts]
    simp only [String.ofList_toList]

/- There is none where the equals signs are not one. -/
theorem pairOf?_eq_none_iff (segment : List Char) :
    pairOf? segment = none ↔ segment.count '=' ≠ 1 := by
  have hLength := Text.length_segments '=' segment
  unfold pairOf?
  split
  · rename_i key value hSegments
    rw [hSegments] at hLength
    simpa using hLength.symm
  · rename_i hNot
    rw [eq_self, true_iff]
    intro hOne
    rw [hOne] at hLength
    match hSegments : Text.segments '=' segment, hLength with
    | [key, value], _ => exact hNot key value hSegments

------------------------------------------------------------
-- Segments
------------------------------------------------------------

/- The first pair is that of the first segment. -/
theorem pairsOf_cons_eq_ok_iff
    (segment : List Char)
    (rest : List (List Char))
    (pairs : List (String × String)) :
    pairsOf (segment :: rest) = .ok pairs ↔
      ∃ pair more,
        pairs = pair :: more ∧ pairOf? segment = some pair ∧
          pairsOf rest = .ok more := by
  rw [pairsOf]
  cases pairOf? segment with
  | none => simp
  | some pair =>
      cases pairsOf rest <;> simp [Except.map, eq_comm]

/- All segments are pairs, and they are read in order. -/
theorem pairsOf_eq_ok_iff
    (segments : List (List Char))
    (pairs : List (String × String)) :
    pairsOf segments = .ok pairs ↔
      (∀ pair ∈ pairs,
          '=' ∉ pair.1.toList ∧ '=' ∉ pair.2.toList) ∧
        pairs.map renderPair = segments := by
  induction segments generalizing pairs with
  | nil => cases pairs <;> simp [pairsOf]
  | cons segment rest ih =>
      rw [pairsOf_cons_eq_ok_iff]
      constructor
      · rintro ⟨pair, more, rfl, hPair, hMore⟩
        rcases (pairOf?_eq_some_iff _ _).1 hPair with
          ⟨hKey, hValue, hSegment⟩
        rcases (ih more).1 hMore with ⟨hPlain, hRest⟩
        rw [List.forall_mem_cons, List.map_cons, hSegment,
          hRest]
        exact ⟨⟨⟨hKey, hValue⟩, hPlain⟩, rfl⟩
      · rintro ⟨hPlain, hSegments⟩
        cases pairs with
        | nil => cases hSegments
        | cons pair more =>
            rw [List.forall_mem_cons] at hPlain
            rw [List.map_cons] at hSegments
            rcases List.cons.inj hSegments with
              ⟨hSegment, hRest⟩
            have hPair :=
              (pairOf?_eq_some_iff segment pair).2
                ⟨hPlain.1.1, hPlain.1.2, hSegment⟩
            exact
              ⟨pair, more, rfl, hPair,
                (ih more).2 ⟨hPlain.2, hRest⟩⟩

/- A segment that is no pair hides what follows it. -/
theorem pairsOf_eq_error_iff_find?
    (segments : List (List Char))
    (e : PluginError) :
    pairsOf segments = .error e ↔
      ∃ segment,
        segments.find? (·.count '=' != 1) = some segment ∧
          e = invalid segment := by
  induction segments with
  | nil => simp [pairsOf]
  | cons segment rest ih =>
      have hPair := pairOf?_eq_none_iff segment
      rw [pairsOf]
      cases hRead : pairOf? segment with
      | none =>
          have hCount := hPair.1 hRead
          rw [List.find?_cons_of_pos (by simpa using hCount)]
          simp [eq_comm]
      | some pair =>
          have hCount : segment.count '=' = 1 := by
            rw [hRead] at hPair
            simpa using hPair
          rw [List.find?_cons_of_neg (by simp [hCount]), ← ih]
          cases pairsOf rest <;> simp [Except.map]

/- The leftmost segment that is no pair is reported. -/
theorem pairsOf_eq_error_iff
    (segments : List (List Char))
    (e : PluginError) :
    pairsOf segments = .error e ↔
      ∃ before segment after,
        segments = before ++ segment :: after ∧
          (∀ piece ∈ before, piece.count '=' = 1) ∧
          segment.count '=' ≠ 1 ∧
          e = invalid segment := by
  rw [pairsOf_eq_error_iff_find?]
  simp only [List.find?_eq_some_iff_append, bne_iff_ne,
    Bool.not_eq_true', bne_eq_false_iff_eq]
  constructor
  · rintro ⟨segment, ⟨hCount, before, after, hSplit, hBefore⟩,
      hError⟩
    exact
      ⟨before, segment, after, hSplit, hBefore, hCount,
        hError⟩
  · rintro ⟨before, segment, after, hSplit, hBefore, hCount,
      hError⟩
    exact
      ⟨segment, ⟨hCount, before, after, hSplit, hBefore⟩,
        hError⟩

/- Where there is none of these, all segments are pairs. -/
theorem exists_pairsOf_eq_ok_iff
    (segments : List (List Char)) :
    (∃ pairs, pairsOf segments = .ok pairs) ↔
      ∀ segment ∈ segments, segment.count '=' = 1 := by
  have hError := pairsOf_eq_error_iff_find? segments
  cases hResult : pairsOf segments with
  | ok pairs =>
      have hNone :
          segments.find? (·.count '=' != 1) = none := by
        cases hFind :
            segments.find? (·.count '=' != 1) with
        | none => rfl
        | some segment =>
            have hFails := (hError _).2 ⟨_, hFind, rfl⟩
            rw [hResult] at hFails
            cases hFails
      rw [List.find?_eq_none] at hNone
      simpa using hNone
  | error e =>
      rcases (hError e).1 hResult with ⟨segment, hFind, _⟩
      have hMem := List.mem_of_find?_eq_some hFind
      have hCount := List.find?_some hFind
      simp only [reduceCtorEq, exists_false, false_iff]
      intro hAll
      rw [hAll segment hMem] at hCount
      cases hCount

------------------------------------------------------------
-- Texts
------------------------------------------------------------

/- What is written for a pair has its equals sign. -/
theorem renderPair_ne_nil (pair : String × String) :
    renderPair pair ≠ [] := by
  simp [renderPair]

/- Only no pairs at all are written as the empty text. -/
theorem render_eq_empty_iff
    (pairs : List (String × String)) :
    render pairs = "" ↔ pairs = [] := by
  constructor
  · intro hEmpty
    have hJoined :
        Text.joined ';' (pairs.map renderPair) = [] :=
      String.ofList_eq_empty_iff.1 hEmpty
    match pairs with
    | [] => rfl
    | [pair] => exact absurd hJoined (renderPair_ne_nil pair)
    | pair :: next :: more =>
        simp [Text.joined] at hJoined
  · rintro rfl
    rfl

/- A pair without semicolons is written without any. -/
theorem semicolon_mem_renderPair_iff
    (pair : String × String) :
    ';' ∈ renderPair pair ↔
      ';' ∈ pair.1.toList ∨ ';' ∈ pair.2.toList := by
  simp [renderPair]

/-
  A text that is not empty splits into the segments that are
  written for its pairs.
-/
theorem splitsInto_render_iff
    {text : String}
    (hSome : text ≠ "")
    (pairs : List (String × String)) :
    Text.SplitsInto ';' text.toList (pairs.map renderPair) ↔
      (∀ pair ∈ pairs,
          ';' ∉ pair.1.toList ∧ ';' ∉ pair.2.toList) ∧
        render pairs = text := by
  have hText :
      Text.joined ';' (pairs.map renderPair) = text.toList ↔
        render pairs = text := by
    rw [render, ← String.toList_inj, String.toList_ofList]
  have hNot :
      (∀ piece ∈ pairs.map renderPair, ';' ∉ piece) ↔
        ∀ pair ∈ pairs,
          ';' ∉ pair.1.toList ∧ ';' ∉ pair.2.toList := by
    simp only [List.forall_mem_map,
      semicolon_mem_renderPair_iff, not_or]
  constructor
  · rintro ⟨_, hJoined, hPieces⟩
    exact ⟨hNot.1 hPieces, hText.1 hJoined⟩
  · rintro ⟨hPlain, hRender⟩
    refine ⟨?_, hText.2 hRender, hNot.2 hPlain⟩
    intro hNil
    apply hSome
    rw [← hRender, render, hNil]
    rfl

/- Pairs are read from the text that is written for them. -/
theorem parse_eq_ok_iff
    (text : String)
    (pairs : List (String × String)) :
    parse text = .ok pairs ↔
      ArePlain pairs ∧ render pairs = text := by
  unfold parse
  by_cases hEmpty : text = ""
  · subst hEmpty
    rw [if_pos rfl, render_eq_empty_iff]
    constructor
    · intro hNone
      cases hNone
      exact ⟨List.forall_mem_nil _, rfl⟩
    · rintro ⟨_, rfl⟩
      rfl
  · have hSegments :=
      (Text.splitsInto_iff ';' text.toList
        (pairs.map renderPair)).symm.trans
          (splitsInto_render_iff hEmpty pairs)
    rw [if_neg hEmpty, pairsOf_eq_ok_iff, hSegments]
    constructor
    · rintro ⟨hEquals, hSemicolons, hRender⟩
      refine ⟨fun pair hPair => ?_, hRender⟩
      exact
        ⟨⟨(hSemicolons pair hPair).1, (hEquals pair hPair).1⟩,
          ⟨(hSemicolons pair hPair).2,
            (hEquals pair hPair).2⟩⟩
    · rintro ⟨hPlain, hRender⟩
      refine
        ⟨fun pair hPair => ?_, fun pair hPair => ?_, hRender⟩
      · rcases hPlain pair hPair with ⟨hKey, hValue⟩
        exact ⟨hKey.no_equals, hValue.no_equals⟩
      · rcases hPlain pair hPair with ⟨hKey, hValue⟩
        exact ⟨hKey.no_semicolon, hValue.no_semicolon⟩

/- Otherwise the leftmost invalid segment is named. -/
theorem parse_eq_error_iff
    (text : String)
    (e : PluginError) :
    parse text = .error e ↔
      text ≠ "" ∧
        ∃ segment,
          IsLeftmostInvalid text segment ∧
            e = invalid segment := by
  unfold parse IsLeftmostInvalid
  by_cases hEmpty : text = ""
  · rw [if_pos hEmpty]
    simp [hEmpty]
  · rw [if_neg hEmpty, pairsOf_eq_error_iff,
      and_iff_right hEmpty]
    simp only [Text.splitsInto_iff]
    constructor
    · rintro ⟨before, segment, after, hSplit, hBefore, hCount,
        hError⟩
      exact
        ⟨segment,
          ⟨before, after, hSplit.symm, hBefore, hCount⟩,
          hError⟩
    · rintro ⟨segment, ⟨before, after, hSplit, hBefore,
        hCount⟩, hError⟩
      exact
        ⟨before, segment, after, hSplit.symm, hBefore, hCount,
          hError⟩

theorem exists_parse_eq_ok_iff (text : String) :
    (∃ pairs, parse text = .ok pairs) ↔
      text = "" ∨
        ∃ segments,
          Text.SplitsInto ';' text.toList segments ∧
            ∀ segment ∈ segments, segment.count '=' = 1 := by
  unfold parse
  by_cases hEmpty : text = ""
  · rw [if_pos hEmpty]
    simp [hEmpty]
  · rw [if_neg hEmpty, exists_pairsOf_eq_ok_iff]
    simp [hEmpty, Text.splitsInto_iff]

------------------------------------------------------------
-- Reading and Writing
------------------------------------------------------------

/-
  How a text is read as pairs: when it is, that the pairs
  are those it is written for, and which segment it is
  refused for.
-/
structure ReadsAsPairs
    (text : String)
    (result : Except PluginError (List (String × String))) :
    Prop where
  accepted_iff :
    (∃ pairs, result = .ok pairs) ↔
      text = "" ∨
        ∃ segments,
          Text.SplitsInto ';' text.toList segments ∧
            ∀ segment ∈ segments, segment.count '=' = 1
  ok_iff :
    ∀ pairs,
      result = .ok pairs ↔
        ArePlain pairs ∧ render pairs = text
  error_iff :
    ∀ e,
      result = .error e ↔
        text ≠ "" ∧
          ∃ segment,
            IsLeftmostInvalid text segment ∧
              e =
                { code := .invalidEnvironment
                  message :=
                    "ARGS: invalid pair " ++
                      Text.quote (String.ofList segment) }

end ArgPairs

/-
  The pairs of an invocation are those that their text is
  written for, and pairs without separators are read back
  from the text that is written for them.
-/
theorem Args.pairs_read_as_written (args : Args) :
    ArgPairs.ReadsAsPairs args.args args.pairs ∧
      ∀ pairs,
        Args.pairs
              { args with args := ArgPairs.render pairs } =
            .ok pairs ↔
          ArgPairs.ArePlain pairs := by
  constructor
  · exact
      { accepted_iff :=
          ArgPairs.exists_parse_eq_ok_iff args.args
        ok_iff := ArgPairs.parse_eq_ok_iff args.args
        error_iff := ArgPairs.parse_eq_error_iff args.args }
  · intro pairs
    unfold Args.pairs
    rw [ArgPairs.parse_eq_ok_iff]
    exact and_iff_left rfl

end NetPlugin
