/-
  Byte sequences.

  Key definitions include:
    * `Bytes`
-/

------------------------------------------------------------
-- Byte Sequences
------------------------------------------------------------

namespace NetPlugin

/- A finite sequence of bytes. -/
abbrev Bytes :=
  List UInt8

end NetPlugin
