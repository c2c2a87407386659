import NetPlugin.Json.Reader

/-
  Reading string literals.

  The contents of a literal are collected as bytes, with
  its escapes replaced, and are decoded as a whole behind
  the closing quote.

  Key definitions include:
    * `Json.hexQuad`
    * `Json.unicodeEscape`
    * `Json.escapeSequence`
    * `Json.contents`
    * `Json.readString`
-/

------------------------------------------------------------
-- Escapes
------------------------------------------------------------

namespace NetPlugin

namespace Json

/- The value of a hexadecimal digit. -/
def hexDigit? (b : UInt8) : Option Nat :=
  if 0x30 ≤ b ∧ b ≤ 0x39 then some (b.toNat - 0x30)
  else if 0x61 ≤ b ∧ b ≤ 0x66 then some (b.toNat - 0x57)
  else if 0x41 ≤ b ∧ b ≤ 0x46 then some (b.toNat - 0x37)
  else none

/- The number written in four hexadecimal digits. -/
def hexQuad (bytes : Bytes) : Except Failure Nat :=
  match bytes with
  | a :: b :: c :: d :: rest =>
      match hexDigit? a, hexDigit? b,
          hexDigit? c, hexDigit? d with
      | some w, some x, some y, some z =>
          .ok (((w * 16 + x) * 16 + y) * 16 + z)
      | _, _, _, _ => .error (.atNext .invalidEscape rest)
  | _ => .error (.atNext .endInString [])

/- The first half of a surrogate pair. -/
def isLeadingSurrogate (n : Nat) : Bool :=
  0xD800 ≤ n && n ≤ 0xDBFF

/- The second half of a surrogate pair. -/
def isTrailingSurrogate (n : Nat) : Bool :=
  0xDC00 ≤ n && n ≤ 0xDFFF

/- The point beyond U+FFFF that a pair stands for. -/
def pairedPoint (leading trailing : Nat) : Nat :=
  0x10000 + (leading - 0xD800) * 0x400 +
    (trailing - 0xDC00)

/- The letter behind the backslash of a numbered escape. -/
def unicodeLetter : UInt8 := 0x75

/- The second half of a pair, as an escape of its own. -/
def trailingEscape
    (leading : Nat)
    (bytes : Bytes) : Except Failure Nat :=
  match bytes with
  | [] => .error (.atNext .endInString [])
  | b :: rest =>
      if b ≠ Mark.backslash then
        .error (.atNext .unpairedSurrogate rest)
      else
        match rest with
        | [] => .error (.atNext .endInString [])
        | c :: digits =>
            if c ≠ unicodeLetter then
              .error (.atNext .unpairedSurrogate digits)
            else
              match hexQuad digits with
              | .error failure => .error failure
              | .ok trailing =>
                  if isTrailingSurrogate trailing then
                    .ok (pairedPoint leading trailing)
                  else
                    .error
                      (.atNext .loneSurrogate
                        (digits.drop 4))

/-
  A numbered escape, behind its letter.  The answer is the
  code point and the number of bytes consumed.
-/
def unicodeEscape
    (bytes : Bytes) : Except Failure (Nat × Nat) :=
  match hexQuad bytes with
  | .error failure => .error failure
  | .ok n =>
      if isTrailingSurrogate n then
        .error (.atNext .loneSurrogate (bytes.drop 4))
      else if isLeadingSurrogate n then
        match trailingEscape n (bytes.drop 4) with
        | .error failure => .error failure
        | .ok point => .ok (point, 10)
      else .ok (n, 4)

/- The byte that a one-letter escape stands for. -/
def shortEscape? (b : UInt8) : Option UInt8 :=
  if b = 0x22 then some 0x22
  else if b = 0x5C then some 0x5C
  else if b = 0x2F then some 0x2F
  else if b = 0x62 then some 0x08
  else if b = 0x66 then some 0x0C
  else if b = 0x6E then some 0x0A
  else if b = 0x72 then some 0x0D
  else if b = 0x74 then some 0x09
  else none

/-
  An escape, behind its backslash.  The answer is the bytes
  it stands for and the number of bytes consumed.
-/
def escapeSequence
    (bytes : Bytes) : Except Failure (Bytes × Nat) :=
  match bytes with
  | [] => .error (.atNext .endInString [])
  | b :: rest =>
      match shortEscape? b with
      | some byte => .ok ([byte], 1)
      | none =>
          if b = unicodeLetter then
            match unicodeEscape rest with
            | .error failure => .error failure
            | .ok (point, width) =>
                .ok (Utf8.encodePoint point, width + 1)
          else .error (.atNext .invalidEscape rest)

------------------------------------------------------------
-- Contents
------------------------------------------------------------

/-
  The contents of a literal up to its closing quote, after
  skipping bytes of an escape that was read already.
-/
def contents : Nat → Reader Bytes
  | _, [] => .error (.atNext .endInString [])
  | skip + 1, _ :: rest => contents skip rest
  | 0, b :: rest =>
      if b = Mark.quote then .ok ([], rest)
      else if b = Mark.backslash then
        match escapeSequence rest with
        | .error failure => .error failure
        | .ok (bytes, width) =>
            (contents width rest).map
              fun (more, after) => (bytes ++ more, after)
      else if b < 0x20 then
        .error (.atNext .controlCharacter rest)
      else
        (contents 0 rest).map
          fun (more, after) => (b :: more, after)

/-
  A string, behind its opening quote.  Contents that are
  not UTF-8 are reported behind the closing quote, shown as
  many columns to the left as bytes are not valid.
-/
def readString : Reader String := fun bytes =>
  match contents 0 bytes with
  | .error failure => .error failure
  | .ok (raw, rest) =>
      match Utf8.decode? raw with
      | some text => .ok (text, rest)
      | none =>
          .error
            (.placed .invalidUnicode rest.length
              (raw.length - Utf8.validLength raw))

------------------------------------------------------------
-- Skipped Strings
------------------------------------------------------------

/- Four digits of a numbered escape that is not used. -/
def skippedEscape (bytes : Bytes) : Except Failure Nat :=
  match bytes with
  | [] => .error (.atNext .endInString [])
  | b :: rest =>
      match shortEscape? b with
      | some _ => .ok 1
      | none =>
          if b = unicodeLetter then
            match hexQuad rest with
            | .error failure => .error failure
            | .ok _ => .ok 5
          else .error (.atNext .invalidEscape rest)

/-
  Skip a string, behind its opening quote.  Its bytes need
  not be UTF-8, surrogates need no partner, and a control
  character is reported without being consumed.
-/
def skipStringFrom : Nat → Reader Unit
  | _, [] => .error (.atNext .endInString [])
  | skip + 1, _ :: rest => skipStringFrom skip rest
  | 0, b :: rest =>
      if b = Mark.quote then .ok ((), rest)
      else if b = Mark.backslash then
        match skippedEscape rest with
        | .error failure => .error failure
        | .ok width => skipStringFrom width rest
      else if b < 0x20 then
        .error (.atNext .controlCharacter (b :: rest))
      else skipStringFrom 0 rest

/- Skip a string, behind its opening quote. -/
def skipString : Reader Unit :=
  skipStringFrom 0

end Json

end NetPlugin
