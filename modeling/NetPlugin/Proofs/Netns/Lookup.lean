import NetPlugin.Netns.PlainHost
import NetPlugin.Proofs.Netns.Following

/-
  What look-ups find, and what a host answers.

  A look-up ends where the names of a path lead, within the
  number of links that it may follow, or with the one fault
  that ends it.  A path then names the own namespace when it
  leads to the file to which the own path leads.

  Main declarations:
    * `Netns.Ends`, `resolve_ends` and `resolve_eq_iff`
    * `Netns.Host.Finds` and `lookup_eq_iff`
    * `Netns.Host.Finds.exists_id`
    * `Netns.Host.Answers` and `query_eq_iff`
    * `Netns.plainHost_query_eq_true_iff`
-/

------------------------------------------------------------
-- Walks
------------------------------------------------------------

namespace NetPlugin

namespace Netns

open Position

variable {root : Node} {start next : Position}

/- What a walk along names without a link comes to. -/
inductive Walks (root : Node) (start : Position) :
    Except LookupFault Progress → Prop where
  | arrives {dest}
      (hLeads : Leads root start 0 ⟨dest, []⟩) :
      Walks root start (.ok (.arrived dest))
  | meetsLink {place name link rest}
      (hLeads : Leads root start 0 ⟨place, name :: rest⟩)
      (hName : IsProper name)
      (hEntry : place.node.HasEntry name (.link link)) :
      Walks root start (.ok (.linked place link rest))
  | stops {position fault}
      (hLeads : Leads root start 0 position)
      (hStops : position.Stops fault) :
      Walks root start (.error fault)

theorem Walks.of_follows
    {progress : Except LookupFault Progress}
    (hFollows : Follows root start 0 next)
    (hWalks : Walks root next progress) :
    Walks root start progress := by
  cases hWalks with
  | arrives hLeads => exact .arrives (.on hFollows hLeads)
  | meetsLink hLeads hName hEntry =>
      exact .meetsLink (.on hFollows hLeads) hName hEntry
  | stops hLeads hStops =>
      exact .stops (.on hFollows hLeads) hStops

/-
  By induction on the names: the first one is followed,
  stands for a link, or stops the walk.
-/
theorem walk_walks
    (root : Node)
    (place : Place)
    (names : List String) :
    Walks root ⟨place, names⟩ (walk place names) := by
  induction names generalizing place with
  | nil => exact .arrives .here
  | cons name rest ih =>
      rw [walk]
      by_cases hDirectory : place.node.isDirectory = true
      case neg =>
        rw [Bool.not_eq_true] at hDirectory
        rw [hDirectory]
        exact
          .stops .here
            ⟨name, rest, rfl, .notDirectory hDirectory⟩
      rw [hDirectory, Bool.not_true, if_neg Bool.false_ne_true]
      by_cases hDot : name = "" ∨ name = "."
      case pos =>
        rw [if_pos hDot]
        exact (ih place).of_follows (.stays hDirectory hDot)
      rw [if_neg hDot]
      by_cases hDots : name = ".."
      case pos =>
        rw [if_pos hDots]
        subst hDots
        exact
          (ih place.parent).of_follows (.ascends hDirectory)
      rw [if_neg hDots]
      have hName : IsProper name :=
        ⟨fun h => hDot (.inl h), fun h => hDot (.inr h), hDots⟩
      cases hEntry : place.node.entry name with
      | error fault =>
          have hLacks :=
            Node.entry_eq_error hDirectory hName hEntry
          exact .stops .here ⟨name, rest, rfl, hLacks⟩
      | ok node =>
          rw [Node.entry_eq_ok_iff] at hEntry
          cases node with
          | link link => exact .meetsLink .here hName hEntry
          | file id =>
              exact
                (ih _).of_follows
                  (.enters hName hEntry (fun _ => nofun))
          | directory id nameLimit entries =>
              exact
                (ih _).of_follows
                  (.enters hName hEntry (fun _ => nofun))

------------------------------------------------------------
-- Look-Ups
------------------------------------------------------------

/-
  What a look-up comes to that may follow so many links:
  the place to which the names lead, the fault of the name
  that leads no further, or a link too many.
-/
inductive Ends (root : Node) (start : Position)
    (limit : Nat) : Except LookupFault Place → Prop where
  | arrives {links dest}
      (hLeads : Leads root start links ⟨dest, []⟩)
      (hLinks : links ≤ limit) :
      Ends root start limit (.ok dest)
  | stops {links position fault}
      (hLeads : Leads root start links position)
      (hLinks : links ≤ limit)
      (hStops : position.Stops fault) :
      Ends root start limit (.error fault)
  | tooManyLinks {position}
      (hLeads : Leads root start (limit + 1) position) :
      Ends root start limit (.error .tooManyLinks)

theorem Ends.of_leads
    {links limit : Nat}
    {result : Except LookupFault Place}
    (hLeads : Leads root start links next)
    (hEnds : Ends root next limit result) :
    Ends root start (links + limit) result := by
  cases hEnds with
  | arrives hWay hLinks =>
      exact .arrives (hLeads.trans hWay) (by omega)
  | stops hWay hLinks hStops =>
      exact .stops (hLeads.trans hWay) (by omega) hStops
  | tooManyLinks hWay =>
      exact .tooManyLinks (hLeads.trans hWay)

/- A look-up that met a link goes on behind it. -/
theorem resolve_behind
    (root : Node)
    (limit : Nat)
    (place : Place)
    (link : Link)
    (rest : List String)
    {start : Place}
    {names : List String}
    (hWalk :
      walk start names = .ok (.linked place link rest)) :
    resolve root (limit + 1) start names =
      resolve root limit
        (beyond root place rest (.link link)).2.place
        (beyond root place rest (.link link)).2.names := by
  rw [resolve, hWalk]
  cases link with
  | path target => rfl
  | opened id => rfl

/-
  By induction on the links that may still be followed: a
  walk ends the look-up, or meets a link and goes on behind
  it with one link less.
-/
theorem resolve_ends
    (root : Node)
    (limit : Nat)
    (place : Place)
    (names : List String) :
    Ends root ⟨place, names⟩ limit
      (resolve root limit place names) := by
  induction limit generalizing place names with
  | zero =>
      have hWalks := walk_walks root place names
      rw [resolve]
      generalize walk place names = progress at hWalks
      cases hWalks with
      | arrives hLeads => exact .arrives hLeads (Nat.zero_le 0)
      | meetsLink hLeads hName hEntry =>
          exact
            .tooManyLinks
              (hLeads.trans (follows_link hName hEntry).leads)
      | stops hLeads hStops =>
          exact .stops hLeads (Nat.zero_le 0) hStops
  | succ limit ih =>
      have hWalks := walk_walks root place names
      cases hWalk : walk place names with
      | error fault =>
          rw [hWalk] at hWalks
          rw [resolve, hWalk]
          cases hWalks with
          | stops hLeads hStops =>
              exact .stops hLeads (Nat.zero_le _) hStops
      | ok progress =>
          rw [hWalk] at hWalks
          cases hWalks with
          | arrives hLeads =>
              rw [resolve, hWalk]
              exact .arrives hLeads (Nat.zero_le _)
          | meetsLink hLeads hName hEntry =>
              have hLink := hLeads.trans
                (follows_link hName hEntry).leads
              rw [resolve_behind root limit _ _ _ hWalk,
                Nat.add_comm]
              exact .of_leads hLink (ih _ _)

/- A link too many is one that no way to an end has. -/
theorem not_leads_of_isEnd
    {links limit : Nat}
    {last beyond : Position}
    (hEnd : IsEnd root last)
    (hLast : Leads root start links last)
    (hLinks : links ≤ limit) :
    ¬ Leads root start (limit + 1) beyond := by
  intro hBeyond
  have hMore := hLast.le_of_isEnd hEnd hBeyond
  omega

/-
  A look-up has one result: all ways lead to one end, and
  to no end within the limit if one has a link too many.
-/
theorem Ends.unique
    {limit : Nat}
    {result other : Except LookupFault Place}
    (hEnds : Ends root start limit result)
    (hOther : Ends root start limit other) :
    result = other := by
  have hArrived := isEnd_of_nil root
  cases hEnds with
  | arrives hLeads hLinks =>
      cases hOther with
      | arrives hWay =>
          cases
            hLeads.end_unique (hArrived _) (hArrived _) hWay
          rfl
      | stops hWay _ hStops =>
          cases
            hLeads.end_unique (hArrived _) hStops.isEnd hWay
          obtain ⟨name, rest, hNames, -⟩ := hStops
          exact nomatch hNames
      | tooManyLinks hWay =>
          exact absurd hWay
            (not_leads_of_isEnd (hArrived _) hLeads hLinks)
  | stops hLeads hLinks hStops =>
      cases hOther with
      | arrives hWay =>
          cases
            hLeads.end_unique hStops.isEnd (hArrived _) hWay
          obtain ⟨name, rest, hNames, -⟩ := hStops
          exact nomatch hNames
      | stops hWay _ hOther =>
          cases
            hLeads.end_unique hStops.isEnd hOther.isEnd hWay
          rw [hStops.unique hOther]
      | tooManyLinks hWay =>
          exact absurd hWay
            (not_leads_of_isEnd hStops.isEnd hLeads hLinks)
  | tooManyLinks hLeads =>
      cases hOther with
      | arrives hWay hLinks =>
          exact absurd hLeads
            (not_leads_of_isEnd (hArrived _) hWay hLinks)
      | stops hWay hLinks hStops =>
          exact absurd hLeads
            (not_leads_of_isEnd hStops.isEnd hWay hLinks)
      | tooManyLinks => rfl

theorem resolve_eq_iff
    {limit : Nat}
    {place : Place}
    {names : List String}
    {result : Except LookupFault Place} :
    resolve root limit place names = result ↔
      Ends root ⟨place, names⟩ limit result := by
  have hEnds := resolve_ends root limit place names
  constructor
  · rintro rfl
    exact hEnds
  · exact hEnds.unique

------------------------------------------------------------
-- What a Host Finds
------------------------------------------------------------

namespace Host

/-
  The names that a look-up of a path follows from the top.
  A path that does not begin there stands behind that of the
  working directory.
-/
inductive HasNames (host : Host) (path : String) :
    List String → Prop where
  | absolute {names}
      (hPath : path.toList.head? = some '/')
      (hNames :
        Text.SplitsInto '/' path.toList
          (names.map String.toList)) :
      HasNames host path names
  | relative {working names}
      (hPath : path.toList.head? ≠ some '/')
      (hWorking :
        Text.SplitsInto '/' host.working.toList
          (working.map String.toList))
      (hNames :
        Text.SplitsInto '/' path.toList
          (names.map String.toList)) :
      HasNames host path (working ++ names)

theorem hasNames_names (host : Host) (path : String) :
    host.HasNames path (host.names path) := by
  rw [names]
  by_cases hPath : path.toList.head? = some '/'
  · rw [if_pos ((isAbsolute_iff path).2 hPath)]
    exact .absolute hPath (splitsInto_namesOf path)
  · rw [if_neg (mt (isAbsolute_iff path).1 hPath)]
    exact
      .relative hPath (splitsInto_namesOf host.working)
        (splitsInto_namesOf path)

theorem HasNames.eq_names
    {host : Host}
    {path : String}
    {names : List String}
    (hNames : host.HasNames path names) :
    names = host.names path := by
  rw [Host.names]
  cases hNames with
  | absolute hPath hNames =>
      rw [if_pos ((isAbsolute_iff path).2 hPath)]
      exact eq_namesOf hNames
  | relative hPath hWorking hNames =>
      rw [if_neg (mt (isAbsolute_iff path).1 hPath),
        eq_namesOf hWorking, eq_namesOf hNames]

/-
  What a look-up of a path finds.  The path has no NUL byte,
  fits into 4095 bytes, has names, and follows 40 links.
-/
inductive Finds (host : Host) (path : String) :
    Except LookupFault Place → Prop where
  | nulByte (hNul : '\x00' ∈ path.toList) :
      Finds host path (.error .nulByte)
  | tooLong
      (hNul : '\x00' ∉ path.toList)
      (hLength : 4095 < (Utf8.encode path).length) :
      Finds host path (.error .nameTooLong)
  | empty (hPath : path = "") :
      Finds host path (.error .missing)
  | followed {names result}
      (hNul : '\x00' ∉ path.toList)
      (hLength : (Utf8.encode path).length ≤ 4095)
      (hPath : path ≠ "")
      (hNames : host.HasNames path names)
      (hEnds :
        Ends host.root ⟨.top host.root, names⟩ 40 result) :
      Finds host path result

variable {host : Host} {path : String}

theorem lookup_finds (host : Host) (path : String) :
    host.Finds path (host.lookup path) := by
  rw [lookup]
  by_cases hNul : '\x00' ∈ path.toList
  case pos =>
    rw [if_pos (List.contains_iff_mem.2 hNul)]
    exact .nulByte hNul
  rw [if_neg (mt List.contains_iff_mem.1 hNul)]
  by_cases hLength : pathLimit < (Utf8.encode path).length
  case pos =>
    rw [if_pos hLength]
    exact .tooLong hNul hLength
  rw [if_neg hLength]
  by_cases hPath : path = ""
  case pos =>
    rw [if_pos hPath]
    exact .empty hPath
  rw [if_neg hPath]
  exact
    .followed hNul (Nat.le_of_not_lt hLength) hPath
      (hasNames_names host path) (resolve_ends ..)

theorem Finds.lookup_eq
    {result : Except LookupFault Place}
    (hFinds : host.Finds path result) :
    host.lookup path = result := by
  rw [lookup, pathLimit]
  cases hFinds with
  | nulByte hNul =>
      rw [if_pos (List.contains_iff_mem.2 hNul)]
  | tooLong hNul hLength =>
      rw [if_neg (mt List.contains_iff_mem.1 hNul),
        if_pos hLength]
  | empty hPath =>
      subst hPath
      rfl
  | followed hNul hLength hPath hNames hEnds =>
      rw [if_neg (mt List.contains_iff_mem.1 hNul),
        if_neg (Nat.not_lt.2 hLength), if_neg hPath,
        ← hNames.eq_names]
      exact resolve_eq_iff.2 hEnds

/- A look-up finds what the names of its path lead to. -/
theorem lookup_eq_iff
    {result : Except LookupFault Place} :
    host.lookup path = result ↔
      host.Finds path result := by
  constructor
  · rintro rfl
    exact lookup_finds host path
  · exact Finds.lookup_eq

/- There are always names to follow. -/
theorem HasNames.ne_nil
    {names : List String}
    (hNames : host.HasNames path names) :
    names ≠ [] := by
  cases hNames with
  | absolute _ hNames => simpa using hNames.ne_nil
  | relative _ _ hNames =>
      intro hNil
      have hEmpty := (List.append_eq_nil_iff.1 hNil).2
      exact hNames.ne_nil (by rw [hEmpty]; rfl)

/- What is found is no link: it has an identity. -/
theorem Finds.exists_id
    {dest : Place}
    (hFinds : host.Finds path (.ok dest)) :
    ∃ id, dest.node.id? = some id := by
  cases hFinds with
  | followed _ _ _ hNames hEnds =>
      cases hEnds with
      | arrives hLeads =>
          have hTop : ∃ id, host.root.id? = some id := by
            cases hLeads with
            | here => exact absurd rfl hNames.ne_nil
            | on hFollows _ =>
                exact
                  Node.exists_id_of_isDirectory
                    hFollows.isDirectory
          have hSolid :=
            hLeads.isSolid hTop (Place.isSolid_top hTop)
          exact hSolid _ (List.mem_cons_self ..)

/- A path leads to a file with an identity. -/
def Denotes (host : Host) (path : String)
    (id : FileId) : Prop :=
  ∃ dest,
    host.Finds path (.ok dest) ∧ dest.node.id? = some id

theorem identify_eq_ok_iff {id : FileId} :
    host.identify path = .ok id ↔ host.Denotes path id := by
  rw [identify]
  constructor
  · intro hIdentify
    cases hLookup : host.lookup path with
    | error fault =>
        rw [hLookup] at hIdentify
        exact nomatch hIdentify
    | ok dest =>
        rw [hLookup] at hIdentify
        have hFinds := lookup_eq_iff.1 hLookup
        obtain ⟨found, hFound⟩ := hFinds.exists_id
        simp only [hFound, Except.ok.injEq] at hIdentify
        exact ⟨dest, hFinds, by rw [hFound, hIdentify]⟩
  · rintro ⟨dest, hFinds, hId⟩
    rw [hFinds.lookup_eq]
    simp only [hId]

theorem identify_eq_error_iff {reason : String} :
    host.identify path = .error reason ↔
      ∃ fault,
        host.Finds path (.error fault) ∧
          fault.text = reason := by
  rw [identify]
  constructor
  · intro hIdentify
    cases hLookup : host.lookup path with
    | error fault =>
        rw [hLookup] at hIdentify
        exact
          ⟨fault, lookup_eq_iff.1 hLookup,
            Except.error.inj hIdentify⟩
    | ok dest =>
        rw [hLookup] at hIdentify
        obtain ⟨found, hFound⟩ :=
          (lookup_eq_iff.1 hLookup).exists_id
        simp only [hFound] at hIdentify
        exact nomatch hIdentify
  · rintro ⟨fault, hFinds, rfl⟩
    rw [hFinds.lookup_eq]

------------------------------------------------------------
-- What a Host Answers
------------------------------------------------------------

/-
  The answer for a path.  Unless the path is empty, the own
  path is looked up before it, and both are compared.
-/
inductive Answers (host : Host) (path : String) :
    Except PluginError Bool → Prop where
  | unnamed (hPath : path = "") :
      Answers host path (.ok false)
  | ownFault {fault}
      (hPath : path ≠ "")
      (hOwn :
        host.Finds "/proc/thread-self/ns/net"
          (.error fault)) :
      Answers host path
        (.error
          { code := .invalidNamespace
            message := "get plugin's netns failed"
            details := "" })
  | otherFault {own fault}
      (hPath : path ≠ "")
      (hOwn : host.Denotes "/proc/thread-self/ns/net" own)
      (hOther : host.Finds path (.error fault)) :
      Answers host path
        (.error
          { code := .invalidNamespace
            message := "get netns failed"
            details := fault.text })
  | compared {own other}
      (hPath : path ≠ "")
      (hOwn : host.Denotes "/proc/thread-self/ns/net" own)
      (hOther : host.Denotes path other) :
      Answers host path (.ok (decide (own = other)))

theorem query_answers (host : Host) (path : String) :
    host.Answers path (host.query path) := by
  rw [query, NamespaceQuery.ofLookup]
  by_cases hPath : path = ""
  case pos =>
    rw [if_pos hPath]
    exact .unnamed hPath
  rw [if_neg hPath]
  cases hOwn : host.identify ownPath with
  | error reason =>
      obtain ⟨fault, hFinds, -⟩ := identify_eq_error_iff.1 hOwn
      exact .ownFault hPath hFinds
  | ok own =>
      have hDenotes := identify_eq_ok_iff.1 hOwn
      cases hOther : host.identify path with
      | error reason =>
          obtain ⟨fault, hFinds, rfl⟩ :=
            identify_eq_error_iff.1 hOther
          exact .otherFault hPath hDenotes hFinds
      | ok other =>
          exact
            .compared hPath hDenotes
              (identify_eq_ok_iff.1 hOther)

theorem Answers.query_eq
    {answer : Except PluginError Bool}
    (hAnswers : host.Answers path answer) :
    host.query path = answer := by
  rw [query, NamespaceQuery.ofLookup, ownPath]
  cases hAnswers with
  | unnamed hPath => rw [if_pos hPath]
  | ownFault hPath hOwn =>
      rw [if_neg hPath,
        identify_eq_error_iff.2 ⟨_, hOwn, rfl⟩]
      rfl
  | otherFault hPath hOwn hOther =>
      rw [if_neg hPath, identify_eq_ok_iff.2 hOwn,
        identify_eq_error_iff.2 ⟨_, hOther, rfl⟩]
      rfl
  | compared hPath hOwn hOther =>
      rw [if_neg hPath, identify_eq_ok_iff.2 hOwn,
        identify_eq_ok_iff.2 hOther]
      rfl

/- A host answers for every path, and in one way. -/
theorem query_eq_iff
    {answer : Except PluginError Bool} :
    host.query path = answer ↔
      host.Answers path answer := by
  constructor
  · rintro rfl
    exact query_answers host path
  · exact Answers.query_eq

/- Where the own path leads, paths that lead there are own. -/
theorem query_eq_true_iff :
    host.query path = .ok true ↔
      path ≠ "" ∧
        ∃ id,
          host.Denotes "/proc/thread-self/ns/net" id ∧
            host.Denotes path id := by
  rw [query_eq_iff]
  constructor
  · generalize hAnswer :
      (.ok true : Except PluginError Bool) = answer
    rintro (hPath | ⟨hPath, hOwn⟩ | ⟨hPath, hOwn, hOther⟩ |
      ⟨hPath, hOwn, hOther⟩)
    case compared =>
      have hSame := Except.ok.inj hAnswer
      obtain rfl := of_decide_eq_true hSame.symm
      exact ⟨hPath, _, hOwn, hOther⟩
    all_goals exact nomatch hAnswer
  · rintro ⟨hPath, id, hOwn, hOther⟩
    simpa using Answers.compared hPath hOwn hOther

end Host

------------------------------------------------------------
-- The Plain Host
------------------------------------------------------------

theorem plainHost_denotes_own :
    plainHost.Denotes "/proc/thread-self/ns/net"
      ownNetwork :=
  Host.identify_eq_ok_iff.1 plainHost_identify_ownPath

/-
  On the plain host the paths of the own namespace are those
  that lead to the one file that stands for it.
-/
theorem plainHost_query_eq_true_iff (path : String) :
    plainHost.query path = .ok true ↔
      plainHost.Denotes path ownNetwork := by
  rw [Host.query_eq_true_iff]
  constructor
  · rintro ⟨-, id, hOwn, hOther⟩
    rw [← Host.identify_eq_ok_iff] at hOwn
    cases plainHost_identify_ownPath.symm.trans hOwn
    exact hOther
  · intro hOther
    refine ⟨?_, ownNetwork, plainHost_denotes_own, hOther⟩
    rintro rfl
    obtain ⟨dest, hFinds, -⟩ := hOther
    exact nomatch hFinds.lookup_eq

end Netns

end NetPlugin
