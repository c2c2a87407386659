import NetPlugin.Netns.FileTree

/-
  Following the names of a path through a tree of files.

  One name is followed at a time, at the cost of a link or
  of none.  There is at most one way on from each position,
  so that of two ways from one position one is the beginning
  of the other, and all of them lead to one end.

  Main declarations:
    * `Netns.Node.HasEntry` and `Netns.Node.Lacks`
    * `Netns.Position.Follows` and `Follows.unique`
    * `Netns.Position.Stops` and `Follows.not_stops`
    * `Netns.Position.Leads` and `Leads.end_unique`
-/

------------------------------------------------------------
-- Entries of Directories
------------------------------------------------------------

namespace NetPlugin

namespace Netns

/- A name is short enough for a directory. -/
def Fits (name : String) (nameLimit : Option Nat) : Prop :=
  ∀ limit, nameLimit = some limit →
    (Utf8.encode name).length ≤ limit

theorem exceeds_eq_false_iff
    (name : String)
    (nameLimit : Option Nat) :
    exceeds name nameLimit = false ↔
      Fits name nameLimit := by
  cases nameLimit with
  | none => simp [exceeds, Fits]
  | some limit => simp [exceeds, Fits]

/- A name that stands for an entry, not for a direction. -/
def IsProper (name : String) : Prop :=
  name ≠ "" ∧ name ≠ "." ∧ name ≠ ".."

namespace Node

/- A directory has an entry, the first of its name. -/
def HasEntry (node : Node) (name : String)
    (entry : Node) : Prop :=
  ∃ id nameLimit before after,
    node =
        .directory id nameLimit
          (before ++ (name, entry) :: after) ∧
      Fits name nameLimit ∧
      ∀ other ∈ before, other.1 ≠ name

/- Why a name leads no further from a node. -/
inductive Lacks (node : Node) (name : String) :
    LookupFault → Prop where
  | notDirectory
      (hNode : node.isDirectory = false) :
      Lacks node name .notDirectory
  | nameTooLong {id limit entries}
      (hNode : node = .directory id (some limit) entries)
      (hName : IsProper name)
      (hLength : limit < (Utf8.encode name).length) :
      Lacks node name .nameTooLong
  | missing {id nameLimit entries}
      (hNode : node = .directory id nameLimit entries)
      (hName : IsProper name)
      (hFits : Fits name nameLimit)
      (hNone : ∀ entry ∈ entries, entry.1 ≠ name) :
      Lacks node name .missing

variable {node entry : Node} {name : String}

theorem HasEntry.isDirectory
    (hEntry : node.HasEntry name entry) :
    node.isDirectory = true := by
  obtain ⟨id, nameLimit, before, after, rfl, -⟩ := hEntry
  rfl

theorem entry_eq_ok_iff :
    node.entry name = .ok entry ↔
      node.HasEntry name entry := by
  constructor
  · intro hEntry
    cases node with
    | file id => exact nomatch hEntry
    | link link => exact nomatch hEntry
    | directory id nameLimit entries =>
        rw [Node.entry] at hEntry
        split at hEntry
        next hExceeds => exact nomatch hEntry
        next hExceeds =>
          split at hEntry
          next hNone => exact nomatch hEntry
          next found hFind =>
            cases hEntry
            obtain ⟨hName, before, after, rfl, hBefore⟩ :=
              List.find?_eq_some_iff_append.1 hFind
            obtain rfl := beq_iff_eq.1 hName
            refine
              ⟨id, nameLimit, before, after, rfl, ?_, ?_⟩
            · rw [Bool.not_eq_true] at hExceeds
              exact (exceeds_eq_false_iff ..).1 hExceeds
            · intro other hOther
              simpa using hBefore other hOther
  · rintro ⟨id, nameLimit, before, after, rfl, hFits,
      hBefore⟩
    have hFind :
        (before ++ (name, entry) :: after).find?
            (·.1 == name) = some (name, entry) := by
      rw [List.find?_eq_some_iff_append]
      exact
        ⟨beq_self_eq_true _, before, after, rfl,
          fun other hOther => by
            simpa using hBefore other hOther⟩
    rw [Node.entry, (exceeds_eq_false_iff ..).2 hFits,
      hFind]
    rfl

theorem entry_eq_error
    (hDirectory : node.isDirectory = true)
    (hName : IsProper name)
    {fault : LookupFault}
    (hEntry : node.entry name = .error fault) :
    node.Lacks name fault := by
  cases node with
  | file id => exact nomatch hDirectory
  | link link => exact nomatch hDirectory
  | directory id nameLimit entries =>
      rw [Node.entry] at hEntry
      split at hEntry
      next hExceeds =>
        cases hEntry
        cases nameLimit with
        | none => exact nomatch hExceeds
        | some limit =>
            exact
              .nameTooLong rfl hName
                (of_decide_eq_true hExceeds)
      next hExceeds =>
        rw [Bool.not_eq_true, exceeds_eq_false_iff]
          at hExceeds
        split at hEntry
        next hNone =>
          cases hEntry
          refine .missing rfl hName hExceeds ?_
          intro entry hMem
          simpa using List.find?_eq_none.1 hNone entry hMem
        next found hFind => exact nomatch hEntry

/- An entry that is there is not lacking. -/
theorem HasEntry.not_lacks
    (hEntry : node.HasEntry name entry)
    (fault : LookupFault) :
    ¬ node.Lacks name fault := by
  obtain ⟨id, nameLimit, before, after, rfl, hFits,
    hBefore⟩ := hEntry
  intro hLacks
  cases hLacks with
  | notDirectory hNode => exact nomatch hNode
  | nameTooLong hNode hName hLength =>
      cases hNode
      have hShort := hFits _ rfl
      omega
  | missing hNode hName hFits hNone =>
      cases hNode
      exact hNone (name, entry) (by simp) rfl

/- A directory lacks no direction. -/
theorem Lacks.not_direction
    {fault : LookupFault}
    (hLacks : node.Lacks name fault)
    (hDirectory : node.isDirectory = true)
    (hName : ¬ IsProper name) : False := by
  cases hLacks with
  | notDirectory hNode =>
      rw [hDirectory] at hNode
      exact nomatch hNode
  | nameTooLong _ hProper => exact hName hProper
  | missing _ hProper => exact hName hProper

/- There is one entry of a name. -/
theorem HasEntry.unique
    {other : Node}
    (hEntry : node.HasEntry name entry)
    (hOther : node.HasEntry name other) :
    entry = other := by
  rw [← entry_eq_ok_iff] at hEntry hOther
  exact Except.ok.inj (hEntry.symm.trans hOther)

/- A name is lacking for one reason. -/
theorem Lacks.unique
    {fault other : LookupFault}
    (hFault : node.Lacks name fault)
    (hOther : node.Lacks name other) :
    fault = other := by
  cases hFault with
  | notDirectory hNode =>
      cases hOther with
      | notDirectory => rfl
      | nameTooLong hOther =>
          simp [hOther, isDirectory] at hNode
      | missing hOther =>
          simp [hOther, isDirectory] at hNode
  | nameTooLong hNode hName hLength =>
      cases hOther with
      | notDirectory hOther =>
          simp [hNode, isDirectory] at hOther
      | nameTooLong => rfl
      | missing hOther _ hFits =>
          cases hNode.symm.trans hOther
          have hShort := hFits _ rfl
          omega
  | missing hNode hName hFits hNone =>
      cases hOther with
      | notDirectory hOther =>
          simp [hNode, isDirectory] at hOther
      | nameTooLong hOther _ hLength =>
          cases hNode.symm.trans hOther
          have hShort := hFits _ rfl
          omega
      | missing => rfl

end Node

------------------------------------------------------------
-- Following Names
------------------------------------------------------------

/- Where a look-up stands, and the names to follow. -/
structure Position where
  place : Place
  names : List String

namespace Position

/-
  One name is followed, and a number of links with it.  The
  target of a link that starts at the top is followed from
  there, and any other one from the directory of the link.
-/
inductive Follows (root : Node) :
    Position → Nat → Position → Prop where
  | stays {place name names}
      (hDirectory : place.node.isDirectory = true)
      (hName : name = "" ∨ name = ".") :
      Follows root ⟨place, name :: names⟩ 0 ⟨place, names⟩
  | ascends {place names}
      (hDirectory : place.node.isDirectory = true) :
      Follows root ⟨place, ".." :: names⟩ 0
        ⟨place.parent, names⟩
  | enters {place name names node}
      (hName : IsProper name)
      (hEntry : place.node.HasEntry name node)
      (hNode : ∀ link, node ≠ .link link) :
      Follows root ⟨place, name :: names⟩ 0
        ⟨place.child node, names⟩
  | opens {place name names id}
      (hName : IsProper name)
      (hEntry :
        place.node.HasEntry name (.link (.opened id))) :
      Follows root ⟨place, name :: names⟩ 1
        ⟨place.child (.file id), names⟩
  | restarts {place name names target more}
      (hName : IsProper name)
      (hEntry :
        place.node.HasEntry name (.link (.path target)))
      (hTarget : target.toList.head? = some '/')
      (hMore :
        Text.SplitsInto '/' target.toList
          (more.map String.toList)) :
      Follows root ⟨place, name :: names⟩ 1
        ⟨.top root, more ++ names⟩
  | turns {place name names target more}
      (hName : IsProper name)
      (hEntry :
        place.node.HasEntry name (.link (.path target)))
      (hTarget : target.toList.head? ≠ some '/')
      (hMore :
        Text.SplitsInto '/' target.toList
          (more.map String.toList)) :
      Follows root ⟨place, name :: names⟩ 1
        ⟨place, more ++ names⟩

/- The next name leads no further. -/
def Stops (position : Position)
    (fault : LookupFault) : Prop :=
  ∃ name rest,
    position.names = name :: rest ∧
      position.place.node.Lacks name fault

/- Names are followed, and so many links with them. -/
inductive Leads (root : Node) :
    Position → Nat → Position → Prop where
  | here {position} : Leads root position 0 position
  | on {first second last links more}
      (hFollows : Follows root first links second)
      (hLeads : Leads root second more last) :
      Leads root first (links + more) last

variable {root : Node} {place : Place}
variable {first second other last : Position}
variable {links more : Nat} {name : String}
variable {names : List String} {node : Node}
variable {fault : LookupFault}

/- One step is a way. -/
theorem Follows.leads
    (hFollows : Follows root first links second) :
    Leads root first links second :=
  .on hFollows .here

/- Ways are joined. -/
theorem Leads.trans
    (hFirst : Leads root first links second)
    (hSecond : Leads root second more last) :
    Leads root first (links + more) last := by
  induction hFirst with
  | here => simpa using hSecond
  | on hFollows _ ih =>
      rw [Nat.add_assoc]
      exact .on hFollows (ih hSecond)

/- The names of a path have slashes between them. -/
theorem splitsInto_namesOf (path : String) :
    Text.SplitsInto '/' path.toList
      ((namesOf path).map String.toList) := by
  rw [Text.splitsInto_iff, namesOf, List.map_map]
  simp [Function.comp_def]

theorem eq_namesOf
    {path : String}
    (hNames :
      Text.SplitsInto '/' path.toList
        (names.map String.toList)) :
    names = namesOf path := by
  rw [Text.splitsInto_iff] at hNames
  rw [namesOf, ← hNames, List.map_map]
  simp [Function.comp_def]

/-
  Where an entry leads, and at the cost of how many links.
-/
def beyond (root : Node) (place : Place)
    (names : List String) : Node → Nat × Position
  | .link (.opened id) =>
      (1, ⟨place.child (.file id), names⟩)
  | .link (.path target) =>
      (1,
        ⟨if isAbsolute target then .top root else place,
          namesOf target ++ names⟩)
  | node => (0, ⟨place.child node, names⟩)

theorem isAbsolute_iff (path : String) :
    isAbsolute path = true ↔
      path.toList.head? = some '/' :=
  beq_iff_eq

/- An entry leads beyond, and nowhere else. -/
theorem follows_entry_iff
    (hName : IsProper name)
    (hEntry : place.node.HasEntry name node) :
    Follows root ⟨place, name :: names⟩ links second ↔
      (links, second) = beyond root place names node := by
  constructor
  · intro hFollows
    cases hFollows with
    | stays hDirectory hOther =>
        exact absurd hOther (by simp [hName.1, hName.2.1])
    | ascends hDirectory => exact absurd rfl hName.2.2
    | enters _ hOther hNode =>
        obtain rfl := hEntry.unique hOther
        cases node with
        | link link => exact absurd rfl (hNode link)
        | file id => rfl
        | directory id nameLimit entries => rfl
    | opens _ hOther =>
        obtain rfl := hEntry.unique hOther
        rfl
    | restarts _ hOther hTarget hMore =>
        obtain rfl := hEntry.unique hOther
        rw [eq_namesOf hMore, beyond,
          if_pos ((isAbsolute_iff _).2 hTarget)]
    | turns _ hOther hTarget hMore =>
        obtain rfl := hEntry.unique hOther
        rw [eq_namesOf hMore, beyond,
          if_neg (mt (isAbsolute_iff _).1 hTarget)]
  · intro hBeyond
    cases node with
    | file id =>
        cases hBeyond
        exact .enters hName hEntry (fun _ => nofun)
    | directory id nameLimit entries =>
        cases hBeyond
        exact .enters hName hEntry (fun _ => nofun)
    | link link =>
        cases link with
        | opened id =>
            cases hBeyond
            exact .opens hName hEntry
        | path target =>
            cases hBeyond
            have hMore := splitsInto_namesOf target
            by_cases hTarget : target.toList.head? = some '/'
            · rw [if_pos ((isAbsolute_iff _).2 hTarget)]
              exact .restarts hName hEntry hTarget hMore
            · rw [if_neg (mt (isAbsolute_iff _).1 hTarget)]
              exact .turns hName hEntry hTarget hMore

/- A link is followed at the cost of one. -/
theorem follows_link
    {link : Link}
    (hName : IsProper name)
    (hEntry : place.node.HasEntry name (.link link)) :
    Follows root ⟨place, name :: names⟩ 1
      (beyond root place names (.link link)).2 := by
  rw [follows_entry_iff hName hEntry]
  cases link with
  | path target => rfl
  | opened id => rfl

theorem Follows.of_entry
    (hFollows :
      Follows root ⟨place, name :: names⟩ links second)
    (hName : IsProper name)
    (hEntry : place.node.HasEntry name node)
    (hOther :
      Follows root ⟨place, name :: names⟩ more other) :
    (links, second) = (more, other) := by
  rw [follows_entry_iff hName hEntry] at hFollows hOther
  exact hFollows.trans hOther.symm

theorem Follows.of_dot
    (hFollows :
      Follows root ⟨place, name :: names⟩ links second)
    (hName : name = "" ∨ name = ".") :
    (links, second) = (0, ⟨place, names⟩) := by
  have hDirection : ¬ IsProper name := by
    rintro ⟨hEmpty, hDot, -⟩
    exact hName.elim hEmpty hDot
  cases hFollows with
  | stays => rfl
  | ascends => simp at hName
  | enters hProper => exact absurd hProper hDirection
  | opens hProper => exact absurd hProper hDirection
  | restarts hProper => exact absurd hProper hDirection
  | turns hProper => exact absurd hProper hDirection

theorem Follows.of_dots
    (hFollows :
      Follows root ⟨place, ".." :: names⟩ links second) :
    (links, second) = (0, ⟨place.parent, names⟩) := by
  cases hFollows with
  | stays _ hName => simp at hName
  | ascends => rfl
  | enters hProper => exact absurd rfl hProper.2.2
  | opens hProper => exact absurd rfl hProper.2.2
  | restarts hProper => exact absurd rfl hProper.2.2
  | turns hProper => exact absurd rfl hProper.2.2

/- Names are followed from directories. -/
theorem Follows.isDirectory
    (hFollows : Follows root first links second) :
    first.place.node.isDirectory = true := by
  cases hFollows with
  | stays hDirectory => exact hDirectory
  | ascends hDirectory => exact hDirectory
  | enters _ hEntry => exact hEntry.isDirectory
  | opens _ hEntry => exact hEntry.isDirectory
  | restarts _ hEntry => exact hEntry.isDirectory
  | turns _ hEntry => exact hEntry.isDirectory

/-
  A name is followed in one way.  The cases are those of the
  name: it stays, it goes up, or it stands for an entry.
-/
theorem Follows.unique
    (hFollows : Follows root first links second)
    (hOther : Follows root first more other) :
    (links, second) = (more, other) := by
  have hStep := hFollows
  cases hFollows with
  | stays hDirectory hName => exact (hOther.of_dot hName).symm
  | ascends hDirectory => exact hOther.of_dots.symm
  | enters hName hEntry _ =>
      exact hStep.of_entry hName hEntry hOther
  | opens hName hEntry =>
      exact hStep.of_entry hName hEntry hOther
  | restarts hName hEntry _ _ =>
      exact hStep.of_entry hName hEntry hOther
  | turns hName hEntry _ _ =>
      exact hStep.of_entry hName hEntry hOther

/- A name that is followed is not one that stops. -/
theorem Follows.not_stops
    (hFollows : Follows root first links second)
    (fault : LookupFault) :
    ¬ first.Stops fault := by
  rintro ⟨name, rest, hNames, hLacks⟩
  cases hFollows with
  | stays hDirectory hName =>
      cases hNames
      exact hLacks.not_direction hDirectory
        (fun hProper => hName.elim hProper.1 hProper.2.1)
  | ascends hDirectory =>
      cases hNames
      exact hLacks.not_direction hDirectory
        (fun hProper => hProper.2.2 rfl)
  | enters hName hEntry _ =>
      cases hNames
      exact hEntry.not_lacks fault hLacks
  | opens hName hEntry =>
      cases hNames
      exact hEntry.not_lacks fault hLacks
  | restarts hName hEntry _ _ =>
      cases hNames
      exact hEntry.not_lacks fault hLacks
  | turns hName hEntry _ _ =>
      cases hNames
      exact hEntry.not_lacks fault hLacks

/- Nothing leads on from the end of a look-up. -/
def IsEnd (root : Node) (position : Position) : Prop :=
  ∀ links next, ¬ Follows root position links next

theorem isEnd_of_nil (root : Node) (place : Place) :
    IsEnd root ⟨place, []⟩ :=
  fun _ _ hFollows => nomatch hFollows

/- A name stops a look-up for one reason. -/
theorem Stops.unique
    {reason : LookupFault}
    (hStops : first.Stops fault)
    (hOther : first.Stops reason) :
    fault = reason := by
  obtain ⟨name, rest, hNames, hLacks⟩ := hStops
  obtain ⟨_, _, hOtherNames, hOtherLacks⟩ := hOther
  cases hNames.symm.trans hOtherNames
  exact hLacks.unique hOtherLacks

theorem Stops.isEnd
    (hStops : first.Stops fault) :
    IsEnd root first :=
  fun _ _ hFollows => hFollows.not_stops fault hStops

/-
  Of two ways from one position, one is the beginning of
  the other.
-/
theorem Leads.comparable
    (hFirst : Leads root first links second)
    (hOther : Leads root first more other) :
    (∃ rest,
      more = links + rest ∧ Leads root second rest other) ∨
      ∃ rest,
        links = more + rest ∧
          Leads root other rest second := by
  induction hFirst generalizing more with
  | here => exact .inl ⟨more, (Nat.zero_add _).symm, hOther⟩
  | on hStep hRest ih =>
      cases hOther with
      | here =>
          exact
            .inr ⟨_, (Nat.zero_add _).symm, .on hStep hRest⟩
      | on hOtherStep hOtherRest =>
          cases hStep.unique hOtherStep
          rcases ih hOtherRest with
            ⟨rest, rfl, hWay⟩ | ⟨rest, rfl, hWay⟩
          · exact .inl ⟨rest, (Nat.add_assoc ..).symm, hWay⟩
          · exact .inr ⟨rest, (Nat.add_assoc ..).symm, hWay⟩

/- A way from an end stays there. -/
theorem IsEnd.eq_of_leads
    (hEnd : IsEnd root first)
    (hLeads : Leads root first links second) :
    links = 0 ∧ first = second := by
  cases hLeads with
  | here => exact ⟨rfl, rfl⟩
  | on hFollows hRest => exact absurd hFollows (hEnd _ _)

/- No way from a position is longer than one to an end. -/
theorem Leads.le_of_isEnd
    (hEnd : IsEnd root last)
    (hLast : Leads root first links last)
    (hOther : Leads root first more other) :
    more ≤ links := by
  rcases hLast.comparable hOther with
    ⟨rest, rfl, hWay⟩ | ⟨rest, rfl, -⟩
  · obtain ⟨rfl, -⟩ := hEnd.eq_of_leads hWay
    exact Nat.le_refl _
  · exact Nat.le_add_right ..

/- All ways from a position lead to one end. -/
theorem Leads.end_unique
    (hEnd : IsEnd root last)
    (hOtherEnd : IsEnd root other)
    (hLast : Leads root first links last)
    (hOther : Leads root first more other) :
    last = other := by
  rcases hLast.comparable hOther with
    ⟨rest, -, hWay⟩ | ⟨rest, -, hWay⟩
  · exact (hEnd.eq_of_leads hWay).2
  · exact (hOtherEnd.eq_of_leads hWay).2.symm

end Position

------------------------------------------------------------
-- Places Behind Links
------------------------------------------------------------

theorem Node.exists_id_of_isDirectory
    {node : Node}
    (hDirectory : node.isDirectory = true) :
    ∃ id, node.id? = some id := by
  cases node with
  | file id => exact ⟨id, rfl⟩
  | link link => exact nomatch hDirectory
  | directory id nameLimit entries => exact ⟨id, rfl⟩

/- A place that stands on no link, and came through none. -/
def Place.IsSolid (place : Place) : Prop :=
  ∀ node ∈ place.node :: place.above,
    ∃ id, node.id? = some id

namespace Place

variable {place : Place} {node : Node}

theorem isSolid_top
    (hRoot : ∃ id, node.id? = some id) :
    (top node).IsSolid := by
  simpa [IsSolid, top] using hRoot

theorem IsSolid.parent
    (hSolid : place.IsSolid) :
    place.parent.IsSolid := by
  rw [Place.parent]
  cases hAbove : place.above with
  | nil => exact hSolid
  | cons node above =>
      intro other hOther
      apply hSolid
      rw [hAbove]
      exact List.mem_cons_of_mem _ hOther

theorem IsSolid.child
    (hSolid : place.IsSolid)
    (hNode : ∃ id, node.id? = some id) :
    (place.child node).IsSolid := by
  intro other hOther
  rcases List.mem_cons.1 hOther with rfl | hAbove
  · exact hNode
  · exact hSolid other hAbove

end Place

namespace Position

variable {root : Node} {first second : Position}
variable {links : Nat}

theorem Follows.isSolid
    (hFollows : Follows root first links second)
    (hRoot : ∃ id, root.id? = some id)
    (hSolid : first.place.IsSolid) :
    second.place.IsSolid := by
  cases hFollows with
  | stays => exact hSolid
  | ascends => exact hSolid.parent
  | @enters place name names node hName hEntry hNode =>
      apply hSolid.child
      cases node with
      | file id => exact ⟨id, rfl⟩
      | link link => exact absurd rfl (hNode link)
      | directory id nameLimit entries => exact ⟨id, rfl⟩
  | opens => exact hSolid.child ⟨_, rfl⟩
  | restarts => exact Place.isSolid_top hRoot
  | turns => exact hSolid

theorem Leads.isSolid
    (hLeads : Leads root first links second)
    (hRoot : ∃ id, root.id? = some id)
    (hSolid : first.place.IsSolid) :
    second.place.IsSolid := by
  induction hLeads with
  | here => exact hSolid
  | on hFollows _ ih =>
      exact ih (hFollows.isSolid hRoot hSolid)

end Position

end Netns

end NetPlugin
