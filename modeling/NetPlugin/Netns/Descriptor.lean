import NetPlugin.Netns.Identity
import NetPlugin.Text.Segments

/-
  What the kernel tells about an open file, and about the
  mounts of a process.

  A file has a number on a mount.  The table of mounts has
  the device of each, but lists those only that have a path.
  Namespaces are on a mount without one, until they are
  bound to a path: the type of that mount then tells that it
  is on their device.

  Key definitions include:
    * `Netns.Mount` and `Netns.Mount.ofLine?`
    * `Netns.OpenFile` and `Netns.OpenFile.ofInfo?`
    * `Netns.OpenFile.id` and `id_eq_own_iff`
-/

------------------------------------------------------------
-- Mounts
------------------------------------------------------------

namespace NetPlugin

namespace Netns

/- A number in decimal digits. -/
def number? (digits : List Char) : Option Nat :=
  if digits ≠ [] ∧ digits.all Char.isDigit then
    some (Nat.ofDigitChars 10 digits 0)
  else none

/- A mount with a path. -/
structure Mount where
  number : Nat
  major : Nat
  minor : Nat
  type : List Char
  deriving DecidableEq, Repr

namespace Mount

/- The type of the mounts that namespaces are on. -/
def namespaceType : List Char := ['n', 's', 'f', 's']

/- The device of a mount. -/
def device (mount : Mount) : Device :=
  if mount.type = namespaceType then .namespaces
  else .numbered mount.major mount.minor

theorem device_eq_namespaces_iff (mount : Mount) :
    mount.device = .namespaces ↔
      mount.type = "nsfs".toList := by
  rw [device]
  constructor
  · intro hDevice
    split at hDevice
    next hType => exact hType
    next hType => exact nomatch hDevice
  · intro hType
    exact if_pos hType

/-
  The mount in a line of the table: its number, that of the
  mount above it, the numbers of the device, and, behind a
  dash, the type.
-/
def ofLine? (line : List Char) : Option Mount :=
  match Text.segments ' ' line with
  | number :: _ :: device :: rest =>
      match Text.segments ':' device,
          rest.dropWhile (· != ['-']) with
      | [major, minor], _ :: type :: _ => do
          return {
            number := ← number? number
            major := ← number? major
            minor := ← number? minor
            type }
      | _, _ => none
  | _ => none

/- The mounts of a table. -/
def ofTable (table : String) : List Mount :=
  (Text.segments '\n' table.toList).filterMap ofLine?

/- Between the path and the dash there may be more. -/
example :
    let line := "36 35 98:0 /a /b rw shared:1 - ext3 /c rw"
    ofLine? line.toList =
      some
        { number := 36
          major := 98
          minor := 0
          type := "ext3".toList } := by
  decide +kernel

end Mount

------------------------------------------------------------
-- Open Files
------------------------------------------------------------

/- The value in a line, if it has the name. -/
def lineValue?
    (name line : List Char) : Option (List Char) :=
  let beginning := name ++ [':', '\t']
  if beginning.isPrefixOf line then
    some (line.drop beginning.length)
  else none

/- The value of the first line that has the name. -/
def infoValue?
    (name info : List Char) : Option (List Char) :=
  (Text.segments '\n' info).findSome? (lineValue? name)

/- The mount of a file, and its number there. -/
structure OpenFile where
  mount : Nat
  inode : Nat
  deriving DecidableEq, Repr

namespace OpenFile

/- The file of which the kernel tells this. -/
def ofInfo? (info : String) : Option OpenFile := do
  let mount ←
    infoValue? ['m', 'n', 't', '_', 'i', 'd'] info.toList
  let inode ← infoValue? ['i', 'n', 'o'] info.toList
  return { mount := ← number? mount, inode := ← number? inode }

/-
  The device of a file.  A mount without a path is that of
  the namespaces when the own one is on it.
-/
def device
    (file : OpenFile)
    (mounts : List Mount)
    (own : OpenFile) : Device :=
  match mounts.find? (·.number == file.mount) with
  | some mount => mount.device
  | none =>
      if file.mount = own.mount then .namespaces
      else .internal file.mount

/- The identity of a file, the own namespace being known. -/
def id
    (file : OpenFile)
    (mounts : List Mount)
    (own : OpenFile) : FileId :=
  { device := file.device mounts own, inode := file.inode }

/-
  Where the own mount has no path, a file is the own
  namespace when it has its number and is on its mount, or
  on one that a namespace is bound to.
-/
theorem id_eq_own_iff
    {mounts : List Mount}
    {file own : OpenFile}
    (hOwn :
      mounts.find? (·.number == own.mount) = none) :
    file.id mounts own = own.id mounts own ↔
      file.inode = own.inode ∧
        (file.mount = own.mount ∨
          ∃ mount,
            mounts.find? (·.number == file.mount) =
                some mount ∧
              mount.type = "nsfs".toList) := by
  have hSelf : own.device mounts own = .namespaces := by
    rw [device, hOwn]
    exact if_pos rfl
  rw [id, id, hSelf, FileId.mk.injEq, and_comm]
  refine and_congr_right fun _ => ?_
  rw [device]
  cases hMount : mounts.find? (·.number == file.mount) with
  | none => simp
  | some mount =>
      have hOther : file.mount ≠ own.mount := by
        intro hSame
        rw [hSame, hOwn] at hMount
        exact nomatch hMount
      simp [hOther, mount.device_eq_namespaces_iff]

/- The values are found between other lines. -/
example :
    ofInfo?
        "pos:\t0\nflags:\t02\nmnt_id:\t27\nino:\t4026531992\n" =
      some ⟨27, 4026531992⟩ := by
  decide +kernel

end OpenFile

end Netns

end NetPlugin
