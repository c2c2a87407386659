import NetPlugin.Netns.Identity
import NetPlugin.Text.Segments

/-
  Looking paths up in a tree of files.

  `walk` follows the names of a path up to the first link,
  and `resolve` goes on from there as often as links may be
  followed.

  Key definitions include:
    * `Netns.Node`
    * `Netns.LookupFault`
    * `Netns.Place`
    * `Netns.walk`
    * `Netns.resolve`
    * `Netns.Host`
    * `Netns.Host.lookup`
-/

------------------------------------------------------------
-- Trees
------------------------------------------------------------

namespace NetPlugin

namespace Netns

/-
  What a link stands for: another path, or a file that is
  open and need not have a path.
-/
inductive Link where
  | path (target : String)
  | opened (id : FileId)
  deriving DecidableEq, Repr

/-
  A file, a link, or a directory with named entries.  Some
  directories bound the bytes of a name.
-/
inductive Node where
  | file (id : FileId)
  | link (link : Link)
  | directory
      (id : FileId)
      (nameLimit : Option Nat)
      (entries : List (String × Node))
  deriving Repr

/- The identity of a file or directory. -/
def Node.id? : Node → Option FileId
  | .file id => some id
  | .link _ => none
  | .directory id _ _ => some id

------------------------------------------------------------
-- Faults
------------------------------------------------------------

/- Why a path cannot be looked up. -/
inductive LookupFault where
  | missing
  | notDirectory
  | nameTooLong
  | tooManyLinks
  | nulByte
  deriving DecidableEq, Repr

/- The text of a fault. -/
def LookupFault.text : LookupFault → String
  | .missing => "No such file or directory (os error 2)"
  | .notDirectory => "Not a directory (os error 20)"
  | .nameTooLong => "File name too long (os error 36)"
  | .tooManyLinks =>
      "Too many levels of symbolic links (os error 40)"
  | .nulByte =>
      "file name contained an unexpected NUL byte"

/- The longest path, in bytes. -/
def pathLimit : Nat := 4095

/- How many links one look-up follows. -/
def linkLimit : Nat := 40

------------------------------------------------------------
-- Places
------------------------------------------------------------

/-
  Where a walk stands: a node, and the directories that it
  came through, the nearest first.
-/
structure Place where
  node : Node
  above : List Node
  deriving Repr

namespace Place

/- The top of a tree. -/
def top (root : Node) : Place :=
  { node := root, above := [] }

/- The directory above.  The top is above itself. -/
def parent (place : Place) : Place :=
  match place.above with
  | [] => place
  | node :: above => { node, above }

/- A node one step below. -/
def child (place : Place) (node : Node) : Place :=
  { node, above := place.node :: place.above }

end Place

/- Whether a name has more bytes than a limit allows. -/
def exceeds (name : String) : Option Nat → Bool
  | none => false
  | some limit => limit < (Utf8.encode name).length

/- The limit counts bytes and may itself be reached. -/
example :
    exceeds "é" (some 1) = true ∧
      exceeds "é" (some 2) = false := by
  decide +kernel

/- The entry of a directory that has a name. -/
def Node.entry (node : Node) (name : String) :
    Except LookupFault Node :=
  match node with
  | .directory _ nameLimit entries =>
      if exceeds name nameLimit then .error .nameTooLong
      else
        match entries.find? (·.1 == name) with
        | none => .error .missing
        | some (_, entry) => .ok entry
  | _ => .error .notDirectory

/- Whether a node is a directory. -/
def Node.isDirectory : Node → Bool
  | .directory _ _ _ => true
  | _ => false

------------------------------------------------------------
-- Walking
------------------------------------------------------------

/-
  How far names lead: to the end, or to a link, with the
  names that are still to be followed.
-/
inductive Progress where
  | arrived (place : Place)
  | linked (place : Place) (link : Link) (rest : List String)
  deriving Repr

/-
  Follow names up to the first link.  An empty name and a
  dot stay, and two dots go up.
-/
def walk (place : Place) :
    List String → Except LookupFault Progress
  | [] => .ok (.arrived place)
  | name :: rest =>
      if !place.node.isDirectory then .error .notDirectory
      else if name = "" ∨ name = "." then walk place rest
      else if name = ".." then walk place.parent rest
      else
        match place.node.entry name with
        | .error fault => .error fault
        | .ok (.link link) => .ok (.linked place link rest)
        | .ok node => walk (place.child node) rest

/- The names of a path. -/
def namesOf (path : String) : List String :=
  (Text.segments '/' path.toList).map String.ofList

/- Whether a path starts at the top. -/
def isAbsolute (path : String) : Bool :=
  path.toList.head? == some '/'

/-
  Follow names, and so many links.  The target of a link is
  looked up from the place of the link, unless it starts at
  the top.
-/
def resolve (root : Node) (links : Nat)
    (place : Place) (names : List String) :
    Except LookupFault Place :=
  match walk place names with
  | .error fault => .error fault
  | .ok (.arrived place) => .ok place
  | .ok (.linked place link rest) =>
      match links, link with
      | 0, _ => .error .tooManyLinks
      | left + 1, .opened id =>
          resolve root left (place.child (.file id)) rest
      | left + 1, .path target =>
          let start :=
            if isAbsolute target then .top root else place
          resolve root left start (namesOf target ++ rest)

------------------------------------------------------------
-- Hosts
------------------------------------------------------------

/- A tree, and the directory in which processes run. -/
structure Host where
  root : Node
  working : String
  deriving Repr

namespace Host

/- The names from the top to what a path names. -/
def names (host : Host) (path : String) : List String :=
  if isAbsolute path then namesOf path
  else namesOf host.working ++ namesOf path

/- Where a path leads. -/
def lookup (host : Host) (path : String) :
    Except LookupFault Place :=
  if path.toList.contains '\x00' then .error .nulByte
  else if pathLimit < (Utf8.encode path).length then
    .error .nameTooLong
  else if path = "" then .error .missing
  else
    resolve host.root linkLimit (.top host.root)
      (host.names path)

/- The identity of what a path leads to. -/
def identify (host : Host) (path : String) :
    Except String FileId :=
  match host.lookup path with
  | .error fault => .error fault.text
  | .ok place =>
      match place.node.id? with
      | some id => .ok id
      | none => .error LookupFault.missing.text

/- The namespaces of a host. -/
def query (host : Host) : NamespaceQuery :=
  .ofLookup host.identify

end Host

end Netns

end NetPlugin
