import NetPlugin.Log.Event
import NetPlugin.Text.Utf8

/-
  Which entries of the log are written.

  A setting is a list of directives: the name or number of a
  level, for everything, or a target with or without a level.
  One that is not set or not understood means warnings, an
  empty one means errors.

  Directives for spans are left out, as nothing here opens
  one, and so are blanks around directives: settings with
  these count as not understood.

  Key definitions include:
    * `Log.Directive`
    * `Log.Filter`
    * `Log.Filter.ofSetting`
    * `Log.Filter.admits`
    * `Log.Logger.install`
-/

------------------------------------------------------------
-- Directives
------------------------------------------------------------

namespace NetPlugin

namespace Log

/-
  The least level that is written, if any is, and the
  beginning of the targets that the directive is for.
-/
structure Directive where
  target : List Char := []
  least : Option Level
  deriving DecidableEq, Repr

namespace Directive

/- Whether a directive is for a target. -/
def isFor (directive : Directive) (target : String) : Bool :=
  directive.target.isPrefixOf target.toList

/- Whether entries of a level are written. -/
def admits (directive : Directive) (level : Level) : Bool :=
  match directive.least with
  | none => false
  | some least => least.rank ≤ level.rank

/- The names of levels in capitals, and their numbers. -/
def levelNames : List (List Char × Option Level) :=
  [(['O', 'F', 'F'], none),
    (['E', 'R', 'R', 'O', 'R'], some .error),
    (['W', 'A', 'R', 'N'], some .warn),
    (['I', 'N', 'F', 'O'], some .info),
    (['D', 'E', 'B', 'U', 'G'], some .debug),
    (['T', 'R', 'A', 'C', 'E'], some .trace),
    (['0'], none), (['1'], some .error), (['2'], some .warn),
    (['3'], some .info), (['4'], some .debug),
    (['5'], some .trace)]

/- The level with a name in any case. -/
def level? (name : List Char) : Option (Option Level) :=
  (levelNames.find?
    fun known => known.1 == name.map Char.toUpper).map
      Prod.snd

/- Letters, digits, underscores, dashes and colons. -/
def isTarget (name : List Char) : Bool :=
  !name.isEmpty &&
    name.all fun c =>
      c.isAlphanum || c == '_' || c == '-' || c == ':'

/-
  A directive.  What stands alone is a level, or else a
  target, and a target without a level is for all levels.
-/
def parse? (text : List Char) : Option Directive :=
  match Text.segments '=' text with
  | [name] =>
      match level? name with
      | some least => some { least }
      | none =>
          if isTarget name then
            some { target := name, least := some .trace }
          else none
  | [target, name] =>
      if !isTarget target then none
      else if name = [] then
        some { target, least := some .trace }
      else
        (level? name).map fun least => { target, least }
  | _ => none

end Directive

------------------------------------------------------------
-- Filters
------------------------------------------------------------

/- Directives in the order in which they are given. -/
structure Filter where
  directives : List Directive
  deriving DecidableEq, Repr

namespace Filter

/-
  The directive that decides about a target: the one with
  the longest beginning, and the last one of these.
-/
def decisive? (target : String) :
    List Directive → Option Directive
  | [] => none
  | directive :: rest =>
      if directive.isFor target then
        match decisive? target rest with
        | none => some directive
        | some later =>
            if later.target.length <
                directive.target.length then
              some directive
            else some later
      else decisive? target rest

/- Whether an entry is written. -/
def admits
    (filter : Filter)
    (entry : Entry) : Bool :=
  match decisive? entry.origin.target filter.directives with
  | none => false
  | some directive => directive.admits entry.level

/- One level for everything. -/
def uniform (least : Option Level) : Filter :=
  { directives := [{ least }] }

------------------------------------------------------------
-- Settings
------------------------------------------------------------

/-
  The filter of a setting that is understood.  Nothing
  between two commas is no directive.
-/
def parse? (setting : List Char) : Option Filter :=
  let pieces :=
    (Text.segments ',' setting).filter fun piece =>
      !piece.isEmpty
  match pieces.mapM Directive.parse? with
  | none => none
  | some [] => some (uniform (some .error))
  | some directives => some { directives }

/- The setting that holds where none is understood. -/
def standardSetting : String := "warn"

/- The filter of that setting. -/
def standard : Filter := uniform (some .warn)

/- The filter of the bytes of a setting, where it is set. -/
def ofSetting (setting : Option Bytes) : Filter :=
  match setting.bind Utf8.decode? with
  | none => standard
  | some text => (parse? text.toList).getD standard

/- The standard setting is understood as it should be. -/
example :
    parse? standardSetting.toList = some standard := by
  decide +kernel

/- Directives stand beside each other. -/
example :
    parse? "cni_noop=Info,2".toList =
      some
        { directives :=
            [ { target := "cni_noop".toList
                least := some .info },
              { least := some .warn } ] } := by
  decide +kernel

end Filter

------------------------------------------------------------
-- Loggers
------------------------------------------------------------

/- The filter of the logger, once one was installed. -/
structure Logger where
  installed : Option Filter := none
  deriving DecidableEq, Repr

namespace Logger

/-
  Install a filter, unless one was installed before; the
  answer says whether this one is in force.
-/
def install
    (logger : Logger)
    (filter : Filter) : Bool × Logger :=
  match logger.installed with
  | none => (true, ⟨some filter⟩)
  | some _ => (false, logger)

/- The lines that are written for some events. -/
def lines
    (logger : Logger)
    (events : List Event) : List String :=
  match logger.installed with
  | none => []
  | some filter =>
      ((events.map Event.entry).filter filter.admits).map
        Entry.line

end Logger

end Log

end NetPlugin
