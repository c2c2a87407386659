import NetPlugin.Environment
import NetPlugin.Text.Segments

/-
  The environment of a process as one block of bytes.

  An entry is a name, an equals sign and a value, and it
  ends with a zero byte.

  Key definitions include:
    * `Environment.Block`
    * `Environment.Block.value?`
    * `Environment.Block.raw`
-/

------------------------------------------------------------
-- Blocks
------------------------------------------------------------

namespace NetPlugin

namespace Environment

/- The entries of an environment, one after the other. -/
abbrev Block :=
  Bytes

namespace Block

/- The end of an entry. -/
def terminator : UInt8 := 0x00

/- The sign between a name and its value. -/
def equals : UInt8 := 0x3D

/- How an entry begins that has a name. -/
def beginning (name : String) : Bytes :=
  Utf8.encode name ++ [equals]

/- The value of an entry, if it has the name. -/
def entryValue?
    (name : String)
    (entry : Bytes) : Option Bytes :=
  if (beginning name).isPrefixOf entry then
    some (entry.drop (beginning name).length)
  else none

/- The value of the first entry that has the name. -/
def value?
    (block : Block)
    (name : String) : Option Bytes :=
  (Text.segments terminator block).findSome?
    (entryValue? name)

/- The variables of an invocation that a block sets. -/
def raw (block : Block) : RawEnvironment :=
  fun v => block.value? v.name

/- An entry has the value that was written into it. -/
theorem entryValue?_beginning_append
    (name : String)
    (value : Bytes) :
    entryValue? name (beginning name ++ value) =
      some value := by
  unfold entryValue?
  rw [if_pos, List.drop_left]
  exact List.isPrefixOf_iff_prefix.mpr ⟨value, rfl⟩

end Block

end Environment

end NetPlugin
