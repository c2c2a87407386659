import NetPlugin.Bytes

/-
  UTF-8: writing characters as bytes, and reading bytes
  strictly or with replacement characters.

  `Utf8.sequence` reads one character.  Where the bytes are
  ill-formed it says how many of them belong to the longest
  beginning of a character, so that a lossy reader replaces
  each of these by one U+FFFD.

  Key definitions include:
    * `Utf8.encodePoint`
    * `Utf8.encodeChar`
    * `Utf8.encode`
    * `Utf8.sequence`
    * `Utf8.decode?`
    * `Utf8.lossy`
    * `Utf8.validLength`
-/

------------------------------------------------------------
-- Writing
------------------------------------------------------------

namespace NetPlugin

namespace Utf8

/- The byte sequence of a code point. -/
def encodePoint (n : Nat) : Bytes :=
  if n < 0x80 then
    [UInt8.ofNat n]
  else if n < 0x800 then
    [UInt8.ofNat (0xC0 + n / 64),
      UInt8.ofNat (0x80 + n % 64)]
  else if n < 0x10000 then
    [UInt8.ofNat (0xE0 + n / 4096),
      UInt8.ofNat (0x80 + n / 64 % 64),
      UInt8.ofNat (0x80 + n % 64)]
  else
    [UInt8.ofNat (0xF0 + n / 262144),
      UInt8.ofNat (0x80 + n / 4096 % 64),
      UInt8.ofNat (0x80 + n / 64 % 64),
      UInt8.ofNat (0x80 + n % 64)]

/- The byte sequence of one character. -/
def encodeChar (c : Char) : Bytes :=
  encodePoint c.toNat

/- The bytes of a list of characters. -/
def encodeChars (text : List Char) : Bytes :=
  text.flatMap encodeChar

/- The bytes of a text. -/
def encode (text : String) : Bytes :=
  encodeChars text.toList

@[simp]
theorem encodeChars_nil :
    encodeChars [] = [] := rfl

@[simp]
theorem encodeChars_cons
    (c : Char)
    (text : List Char) :
    encodeChars (c :: text) =
      encodeChar c ++ encodeChars text := rfl

@[simp]
theorem encodeChars_append
    (left right : List Char) :
    encodeChars (left ++ right) =
      encodeChars left ++ encodeChars right := by
  simp [encodeChars]

/- A character has one to four bytes. -/
theorem encodeChar_ne_nil (c : Char) :
    encodeChar c ≠ [] := by
  unfold encodeChar encodePoint
  split
  · simp
  · split
    · simp
    · split <;> simp

------------------------------------------------------------
-- Lead Bytes
------------------------------------------------------------

/-
  What a lead byte announces: its share of the code point,
  the number of bytes that follow, and the bounds of the
  first of these.
-/
structure Lead where
  payload : Nat
  following : Nat
  low : Nat
  high : Nat

/-
  The lead bytes of sequences of two to four bytes.  The
  narrowed bounds leave out overlong forms, surrogates, and
  points above U+10FFFF.
-/
def lead? (byte : Nat) : Option Lead :=
  if byte < 0xC2 then none
  else if byte < 0xE0 then
    some ⟨byte - 0xC0, 1, 0x80, 0xBF⟩
  else if byte = 0xE0 then
    some ⟨byte - 0xE0, 2, 0xA0, 0xBF⟩
  else if byte = 0xED then
    some ⟨byte - 0xE0, 2, 0x80, 0x9F⟩
  else if byte < 0xF0 then
    some ⟨byte - 0xE0, 2, 0x80, 0xBF⟩
  else if byte = 0xF0 then
    some ⟨byte - 0xF0, 3, 0x90, 0xBF⟩
  else if byte < 0xF4 then
    some ⟨byte - 0xF0, 3, 0x80, 0xBF⟩
  else if byte = 0xF4 then
    some ⟨byte - 0xF0, 3, 0x80, 0x8F⟩
  else none

------------------------------------------------------------
-- One Character
------------------------------------------------------------

/-
  Read the announced following bytes.  The answer is the
  code point, if all of them are there, and the number of
  bytes that fit.
-/
def trail
    (payload taken low high : Nat) :
    Nat → Bytes → Option Nat × Nat
  | 0, _ => (some payload, taken)
  | _ + 1, [] => (none, taken)
  | following + 1, byte :: rest =>
      if low ≤ byte.toNat ∧ byte.toNat ≤ high then
        trail (payload * 64 + (byte.toNat - 0x80))
          (taken + 1) 0x80 0xBF following rest
      else (none, taken)

/-
  Read the character that a byte begins.  The answer is the
  character, if there is one, and the number of further
  bytes that belong to it or to its beginning.
-/
def sequence
    (byte : UInt8)
    (rest : Bytes) : Option Char × Nat :=
  if byte.toNat < 0x80 then
    (some (Char.ofNat byte.toNat), 0)
  else
    match lead? byte.toNat with
    | none => (none, 0)
    | some lead =>
        let (point?, taken) :=
          trail lead.payload 0 lead.low lead.high
            lead.following rest
        (point?.map Char.ofNat, taken)

------------------------------------------------------------
-- Reading
------------------------------------------------------------

/-
  Read characters, after skipping bytes that belong to the
  one before.
-/
def decodeFrom : Nat → Bytes → Option (List Char)
  | _, [] => some []
  | skip + 1, _ :: rest => decodeFrom skip rest
  | 0, byte :: rest =>
      match sequence byte rest with
      | (none, _) => none
      | (some c, more) =>
          (decodeFrom more rest).map (c :: ·)

/- The text whose bytes these are, if there is one. -/
def decode? (bytes : Bytes) : Option String :=
  (decodeFrom 0 bytes).map String.ofList

/- Like `decodeFrom`, replacing what is ill-formed. -/
def lossyFrom : Nat → Bytes → List Char
  | _, [] => []
  | skip + 1, _ :: rest => lossyFrom skip rest
  | 0, byte :: rest =>
      let (c?, more) := sequence byte rest
      c?.getD '\uFFFD' :: lossyFrom more rest

/-
  The text of any bytes: each longest beginning of a
  character that is not completed, and each byte that can
  begin none, reads as U+FFFD.
-/
def lossy (bytes : Bytes) : String :=
  String.ofList (lossyFrom 0 bytes)

/- Like `decodeFrom`, counting bytes up to the first fault. -/
def validLengthFrom : Nat → Bytes → Nat
  | _, [] => 0
  | skip + 1, _ :: rest => validLengthFrom skip rest + 1
  | 0, byte :: rest =>
      match sequence byte rest with
      | (none, _) => 0
      | (some _, more) => validLengthFrom more rest + 1

/- The length of the longest beginning that is a text. -/
def validLength (bytes : Bytes) : Nat :=
  validLengthFrom 0 bytes

/- A cut-off sequence is replaced once, a stray byte too. -/
example :
    lossy [0x61, 0xE2, 0x82, 0x28, 0xFF] =
      "a\uFFFD(\uFFFD" := by
  decide +kernel

example : validLength [0x61, 0xC3, 0xA9, 0xC3] = 3 := by
  decide

end Utf8

end NetPlugin
