import NetPlugin.Log.Filter

/-
  Which entries a setting lets through.

  Of the directives for a target the one with the longest
  beginning decides, and the last one where several have it,
  so that the order of a setting matters between equal
  beginnings only.  A setting without directives for targets
  is a bound on the level.

  Main declarations:
    * `Log.Filter.IsDecisive` and `decisive?_eq_some_iff`
    * `Log.Filter.admits_iff`
    * `Log.Filter.uniform_admits_iff`
    * `Log.Filter.Reads` and `parse?_eq_some_iff`
    * `Log.Logger.install_twice`
-/

------------------------------------------------------------
-- Deciding Directives
------------------------------------------------------------

namespace NetPlugin

namespace Log

namespace Directive

theorem isFor_iff
    (directive : Directive)
    (target : String) :
    directive.isFor target = true ↔
      directive.target <+: target.toList :=
  List.isPrefixOf_iff_prefix

theorem admits_iff
    (directive : Directive)
    (level : Level) :
    directive.admits level = true ↔
      ∃ least,
        directive.least = some least ∧
          least.rank ≤ level.rank := by
  rw [admits]
  cases directive.least with
  | none => simp
  | some least => simp

end Directive

namespace Filter

/-
  A directive that decides about a target: none in front of
  it has a longer beginning, and none behind it one that is
  as long.
-/
structure IsDecisive
    (directives : List Directive)
    (target : String)
    (directive : Directive) : Prop where
  isFor : directive.target <+: target.toList
  longest :
    ∃ before after,
      directives = before ++ directive :: after ∧
        (∀ other ∈ before,
          other.target <+: target.toList →
            other.target.length ≤ directive.target.length) ∧
        ∀ other ∈ after,
          other.target <+: target.toList →
            other.target.length < directive.target.length

variable {directives : List Directive} {target : String}
variable {directive : Directive}

/- No directive for the target has a longer beginning. -/
theorem IsDecisive.length_le
    (hDecisive : IsDecisive directives target directive)
    (other : Directive)
    (hOther : other ∈ directives)
    (hFor : other.target <+: target.toList) :
    other.target.length ≤ directive.target.length := by
  obtain ⟨-, before, after, rfl, hBefore, hAfter⟩ :=
    hDecisive
  rcases List.mem_append.1 hOther with hMem | hMem
  · exact hBefore other hMem hFor
  · rcases List.mem_cons.1 hMem with rfl | hMem
    · exact Nat.le_refl _
    · exact Nat.le_of_lt (hAfter other hMem hFor)

theorem decisive?_eq_none_iff :
    decisive? target directives = none ↔
      ∀ other ∈ directives,
        ¬ other.target <+: target.toList := by
  induction directives with
  | nil => simp [decisive?]
  | cons first rest ih =>
      rw [decisive?, List.forall_mem_cons, ← ih,
        ← Directive.isFor_iff]
      by_cases hFor : first.isFor target = true
      · rw [if_pos hFor]
        refine iff_of_false ?_ (fun hNot => hNot.1 hFor)
        split
        · exact nofun
        · split <;> exact nofun
      · rw [if_neg hFor]
        exact (and_iff_right hFor).symm

/- What decides among all decides among the later ones. -/
theorem IsDecisive.cons
    {first : Directive}
    (hDecisive : IsDecisive directives target directive)
    (hFirst :
      first.target <+: target.toList →
        first.target.length ≤ directive.target.length) :
    IsDecisive (first :: directives) target directive := by
  obtain ⟨hFor, before, after, rfl, hBefore, hAfter⟩ :=
    hDecisive
  exact
    ⟨hFor, first :: before, after, rfl,
      List.forall_mem_cons.2 ⟨hFirst, hBefore⟩, hAfter⟩

/-
  By induction on the directives: the first one decides when
  it is for the target and has a longer beginning than the
  one that decides among the others.
-/
theorem isDecisive_of_decisive?
    (hDecisive :
      decisive? target directives = some directive) :
    IsDecisive directives target directive := by
  induction directives generalizing directive with
  | nil => exact nomatch hDecisive
  | cons first rest ih =>
      rw [decisive?] at hDecisive
      by_cases hFor : first.isFor target = true
      case neg =>
        rw [if_neg hFor] at hDecisive
        rw [Directive.isFor_iff] at hFor
        exact (ih hDecisive).cons (fun h => absurd h hFor)
      rw [if_pos hFor] at hDecisive
      rw [Directive.isFor_iff] at hFor
      cases hRest : decisive? target rest with
      | none =>
          rw [hRest] at hDecisive
          obtain rfl := Option.some.inj hDecisive
          refine ⟨hFor, [], rest, rfl, by simp, ?_⟩
          intro other hOther hIsFor
          exact
            absurd hIsFor
              (decisive?_eq_none_iff.1 hRest other hOther)
      | some later =>
          have hLater := ih hRest
          simp only [hRest] at hDecisive
          split at hDecisive
          next hLonger =>
            obtain rfl := Option.some.inj hDecisive
            refine ⟨hFor, [], rest, rfl, by simp, ?_⟩
            intro other hOther hIsFor
            have hBound := hLater.length_le other hOther hIsFor
            omega
          next hLonger =>
            obtain rfl := Option.some.inj hDecisive
            exact
              hLater.cons (fun _ => Nat.le_of_not_lt hLonger)

theorem IsDecisive.mem
    (hDecisive : IsDecisive directives target directive) :
    directive ∈ directives := by
  obtain ⟨-, before, after, rfl, -⟩ := hDecisive
  exact List.mem_append_right _ (List.mem_cons_self ..)

/-
  One directive decides.  If another one did, the first of
  the two would have the longer beginning, and the other one
  has a beginning at least as long.
-/
theorem IsDecisive.unique
    {other : Directive}
    (hDecisive : IsDecisive directives target directive)
    (hOther : IsDecisive directives target other) :
    directive = other := by
  have hAtMost :=
    hDecisive.length_le other hOther.mem hOther.isFor
  have hAtLeast :=
    hOther.length_le directive hDecisive.mem hDecisive.isFor
  obtain ⟨hFor, before, after, hSplit, -, hAfter⟩ := hDecisive
  obtain ⟨hFor', before', after', hSplit', -, hAfter'⟩ :=
    hOther
  rcases
      List.append_eq_append_iff.1 (hSplit.symm.trans hSplit')
    with ⟨between, -, hBetween⟩ | ⟨between, -, hBetween⟩
  · cases between with
    | nil => exact (List.cons.inj hBetween).1
    | cons first between =>
        obtain ⟨rfl, rfl⟩ := List.cons.inj hBetween
        have hLess := hAfter other (by simp) hFor'
        omega
  · cases between with
    | nil => exact (List.cons.inj hBetween).1.symm
    | cons first between =>
        obtain ⟨rfl, rfl⟩ := List.cons.inj hBetween
        have hLess := hAfter' directive (by simp) hFor
        omega

theorem decisive?_eq_some_iff :
    decisive? target directives = some directive ↔
      IsDecisive directives target directive := by
  constructor
  · exact isDecisive_of_decisive?
  · intro hDecisive
    cases hFound : decisive? target directives with
    | none =>
        exact
          absurd hDecisive.isFor
            (decisive?_eq_none_iff.1 hFound _ hDecisive.mem)
    | some found =>
        have hOther := isDecisive_of_decisive? hFound
        rw [hOther.unique hDecisive]

/-
  An entry is written when there is a directive that decides
  about its target and lets its level through.
-/
theorem admits_iff (filter : Filter) (entry : Entry) :
    filter.admits entry = true ↔
      ∃ directive least,
        IsDecisive filter.directives entry.origin.target
            directive ∧
          directive.least = some least ∧
          least.rank ≤ entry.level.rank := by
  simp only [← decisive?_eq_some_iff]
  rw [admits]
  cases decisive? entry.origin.target filter.directives with
  | none => simp
  | some directive => simp [Directive.admits_iff]

/- One level for everything bounds the level. -/
theorem uniform_admits_iff
    (least : Option Level)
    (entry : Entry) :
    (uniform least).admits entry = true ↔
      ∃ bound,
        least = some bound ∧
          bound.rank ≤ entry.level.rank :=
  Directive.admits_iff { least } entry.level

------------------------------------------------------------
-- Settings
------------------------------------------------------------

/-
  A setting and what its directives are.  Between the commas
  of the text, what is not empty is read.
-/
def Reads
    (setting : List Char)
    (directives : List Directive) : Prop :=
  ∃ pieces,
    Text.SplitsInto ',' setting pieces ∧
      (pieces.filter fun piece => !piece.isEmpty).map
          Directive.parse? =
        directives.map some

/- All pieces are read, or the setting is not understood. -/
theorem mapM_parse?_eq_some_iff
    (pieces : List (List Char))
    (directives : List Directive) :
    pieces.mapM Directive.parse? = some directives ↔
      pieces.map Directive.parse? = directives.map some := by
  induction pieces generalizing directives with
  | nil => cases directives <;> simp
  | cons piece rest ih =>
      rw [List.mapM_cons, List.map_cons]
      cases directives with
      | nil => simp [Option.bind_eq_some_iff]
      | cons directive others =>
          rw [List.map_cons, List.cons.injEq, ← ih]
          simp [Option.bind_eq_some_iff]

/-
  The filter of a setting: errors where it has no directive,
  the directives otherwise.
-/
theorem parse?_eq_some_iff
    (setting : List Char)
    (filter : Filter) :
    parse? setting = some filter ↔
      ∃ directives,
        Reads setting directives ∧
          filter.directives =
            if directives = [] then [{ least := some .error }]
            else directives := by
  obtain ⟨known⟩ := filter
  unfold Reads
  simp only [← mapM_parse?_eq_some_iff, Text.splitsInto_iff,
    exists_eq_left]
  rw [parse?]
  cases hPieces : ((Text.segments ',' setting).filter
      fun piece => !piece.isEmpty).mapM Directive.parse? with
  | none => simp
  | some directives =>
      cases directives with
      | nil => simp [uniform, eq_comm]
      | cons first rest => simp [eq_comm]

/- Where no setting is understood, warnings are written. -/
theorem ofSetting_eq_standard
    {setting : Option Bytes}
    (hNone :
      ∀ text directives,
        setting.bind Utf8.decode? = some text →
          ¬ Reads text.toList directives) :
    ofSetting setting =
      { directives := [{ least := some .warn }] } := by
  rw [ofSetting]
  cases hText : setting.bind Utf8.decode? with
  | none => rfl
  | some text =>
      have hParse : parse? text.toList = none := by
        rw [Option.eq_none_iff_forall_ne_some]
        intro filter hFilter
        obtain ⟨directives, hReads, -⟩ :=
          (parse?_eq_some_iff ..).1 hFilter
        exact hNone text directives hText hReads
      simp only [hParse]
      rfl

end Filter

------------------------------------------------------------
-- Loggers
------------------------------------------------------------

namespace Logger

/- A logger is installed once, and stays as it is then. -/
theorem install_twice
    (logger : Logger)
    (first second : Filter) :
    let installed := (logger.install first).2
    installed.install second = (false, installed) := by
  unfold install
  cases hInstalled : logger.installed with
  | none => rfl
  | some filter => simp [hInstalled]

end Logger

end Log

end NetPlugin
