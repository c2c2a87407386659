import NetPlugin.Text.Utf8

/-
  Texts read back from their bytes.

  A code point is a scalar value when it is no surrogate
  and not above U+10FFFF.  The bytes of a scalar value are a
  lead byte and the bytes that it announces.

  Main declarations:
    * `Utf8.sequence_encodePoint`
    * `Utf8.decodeFrom_encodeChars`
    * `Utf8.decode?_encode`
    * `Utf8.length_encode`
    * `Utf8.encodeAll` and `Utf8.encode_join`
-/

------------------------------------------------------------
-- Bytes of Code Points
------------------------------------------------------------

namespace NetPlugin

namespace Utf8

/- The code points of characters. -/
def IsScalar (n : Nat) : Prop :=
  n < 0xD800 ∨ 0xDFFF < n ∧ n < 0x110000

theorem isScalar_toNat (c : Char) : IsScalar c.toNat :=
  c.valid

theorem toNat_ofNat_of_lt
    {n : Nat}
    (hByte : n < 256) :
    (UInt8.ofNat n).toNat = n := by
  simp [Nat.mod_eq_of_lt hByte]

/- A following byte within the bounds is taken. -/
theorem trail_cons
    {payload taken low high following n : Nat}
    (hByte : n < 256)
    (hLow : low ≤ n)
    (hHigh : n ≤ high)
    (rest : Bytes) :
    trail payload taken low high (following + 1)
        (UInt8.ofNat n :: rest) =
      trail (payload * 64 + (n - 0x80)) (taken + 1) 0x80 0xBF
        following rest := by
  rw [trail, toNat_ofNat_of_lt hByte,
    if_pos ⟨hLow, hHigh⟩]

/- A lead byte below U+0800 has one byte to follow. -/
theorem lead?_two
    {n : Nat}
    (hLow : 0x80 ≤ n)
    (hHigh : n < 0x800) :
    lead? (0xC0 + n / 64) =
      some ⟨n / 64, 1, 0x80, 0xBF⟩ := by
  unfold lead?
  rw [if_neg (by omega), if_pos (by omega)]
  simp

/-
  A lead byte below U+10000 has two bytes to follow, and the
  bounds of the first one are those of a scalar value.
-/
theorem lead?_three
    {n : Nat}
    (hLow : 0x800 ≤ n)
    (hHigh : n < 0x10000)
    (hScalar : IsScalar n) :
    ∃ low high,
      lead? (0xE0 + n / 4096) =
          some ⟨n / 4096, 2, low, high⟩ ∧
        low ≤ 0x80 + n / 64 % 64 ∧
        0x80 + n / 64 % 64 ≤ high := by
  unfold IsScalar at hScalar
  unfold lead?
  rw [if_neg (by omega), if_neg (by omega)]
  by_cases hFirst : n / 4096 = 0
  · exact
      ⟨_, _, by rw [if_pos (by omega), hFirst], by omega,
        by omega⟩
  · rw [if_neg (by omega)]
    by_cases hSurrogates : n / 4096 = 0xD
    · exact
        ⟨_, _, by rw [if_pos (by omega), hSurrogates],
          by omega, by omega⟩
    · rw [if_neg (by omega), if_pos (by omega)]
      exact
        ⟨_, _, by rw [Nat.add_sub_cancel_left], by omega,
          by omega⟩

/- The other lead bytes have three bytes to follow. -/
theorem lead?_four
    {n : Nat}
    (hLow : 0x10000 ≤ n)
    (hScalar : IsScalar n) :
    ∃ low high,
      lead? (0xF0 + n / 262144) =
          some ⟨n / 262144, 3, low, high⟩ ∧
        low ≤ 0x80 + n / 4096 % 64 ∧
        0x80 + n / 4096 % 64 ≤ high := by
  unfold IsScalar at hScalar
  unfold lead?
  rw [if_neg (by omega), if_neg (by omega),
    if_neg (by omega), if_neg (by omega), if_neg (by omega)]
  by_cases hFirst : n / 262144 = 0
  · exact
      ⟨_, _, by rw [if_pos (by omega), hFirst], by omega,
        by omega⟩
  · rw [if_neg (by omega)]
    by_cases hLast : n / 262144 = 4
    · rw [if_neg (by omega), if_pos (by omega)]
      exact
        ⟨_, _, by rw [Nat.add_sub_cancel_left], by omega,
          by omega⟩
    · rw [if_pos (by omega)]
      exact
        ⟨_, _, by rw [Nat.add_sub_cancel_left], by omega,
          by omega⟩

------------------------------------------------------------
-- One Character
------------------------------------------------------------

/- The bytes of a scalar value are one sequence. -/
theorem sequence_encodePoint
    {n : Nat}
    (hScalar : IsScalar n) :
    ∃ byte tail,
      encodePoint n = byte :: tail ∧
        ∀ rest,
          sequence byte (tail ++ rest) =
            (some (Char.ofNat n), tail.length) := by
  have hBound : n < 0x110000 := by
    unfold IsScalar at hScalar
    omega
  unfold encodePoint
  split
  · refine ⟨_, [], rfl, fun rest => ?_⟩
    rw [sequence, toNat_ofNat_of_lt (by omega),
      if_pos (by omega)]
    rfl
  · split
    · refine ⟨_, _, rfl, fun rest => ?_⟩
      rw [sequence, toNat_ofNat_of_lt (by omega),
        if_neg (by omega), lead?_two (by omega) (by omega)]
      simp only [List.cons_append, List.nil_append]
      rw [trail_cons (by omega) (by omega) (by omega), trail]
      have hPoint :
          n / 64 * 64 + (0x80 + n % 64 - 0x80) = n := by
        omega
      rw [hPoint]
      rfl
    · split
      · rcases lead?_three (by omega) (by omega) hScalar with
          ⟨low, high, hLead, hLow, hHigh⟩
        refine ⟨_, _, rfl, fun rest => ?_⟩
        rw [sequence, toNat_ofNat_of_lt (by omega),
          if_neg (by omega), hLead]
        simp only [List.cons_append, List.nil_append]
        rw [trail_cons (by omega) hLow hHigh,
          trail_cons (by omega) (by omega) (by omega), trail]
        have hPoint :
            (n / 4096 * 64 + (0x80 + n / 64 % 64 - 0x80)) *
                64 + (0x80 + n % 64 - 0x80) = n := by
          omega
        rw [hPoint]
        rfl
      · rcases lead?_four (by omega) hScalar with
          ⟨low, high, hLead, hLow, hHigh⟩
        refine ⟨_, _, rfl, fun rest => ?_⟩
        rw [sequence, toNat_ofNat_of_lt (by omega),
          if_neg (by omega), hLead]
        simp only [List.cons_append, List.nil_append]
        rw [trail_cons (by omega) hLow hHigh,
          trail_cons (by omega) (by omega) (by omega),
          trail_cons (by omega) (by omega) (by omega), trail]
        have hPoint :
            ((n / 262144 * 64 +
                  (0x80 + n / 4096 % 64 - 0x80)) * 64 +
                (0x80 + n / 64 % 64 - 0x80)) * 64 +
              (0x80 + n % 64 - 0x80) = n := by
          omega
        rw [hPoint]
        rfl

------------------------------------------------------------
-- Texts
------------------------------------------------------------

/- Bytes that belong to the character before are skipped. -/
theorem decodeFrom_length_append
    (skipped rest : Bytes) :
    decodeFrom skipped.length (skipped ++ rest) =
      decodeFrom 0 rest := by
  induction skipped with
  | nil => rfl
  | cons b more ih => simpa [decodeFrom] using ih

theorem decodeFrom_encodeChar_append
    (c : Char)
    (rest : Bytes) :
    decodeFrom 0 (encodeChar c ++ rest) =
      (decodeFrom 0 rest).map (c :: ·) := by
  rcases sequence_encodePoint (isScalar_toNat c) with
    ⟨byte, tail, hBytes, hSequence⟩
  rw [encodeChar, hBytes, List.cons_append, decodeFrom,
    hSequence]
  simp only [Char.ofNat_toNat, decodeFrom_length_append]

theorem decodeFrom_encodeChars (text : List Char) :
    decodeFrom 0 (encodeChars text) = some text := by
  induction text with
  | nil => rfl
  | cons c text ih =>
      rw [encodeChars_cons, decodeFrom_encodeChar_append, ih]
      rfl

/- A text is read back from its bytes. -/
@[simp]
theorem decode?_encode (text : String) :
    decode? (encode text) = some text := by
  rw [decode?, encode, decodeFrom_encodeChars]
  simp

------------------------------------------------------------
-- Lengths
------------------------------------------------------------

/- A character has as many bytes as it should. -/
theorem length_encodeChar (c : Char) :
    (encodeChar c).length = c.utf8Size := by
  have hSize :
      c.utf8Size =
        if c.toNat ≤ 0x7F then 1
        else if c.toNat ≤ 0x7FF then 2
        else if c.toNat ≤ 0xFFFF then 3
        else 4 := by
    unfold Char.utf8Size
    simp only [UInt32.le_iff_toNat_le]
    rfl
  rw [hSize]
  unfold encodeChar encodePoint
  split
  · rw [if_pos (by omega)]
    rfl
  split
  · rw [if_neg (by omega), if_pos (by omega)]
    rfl
  split
  · rw [if_neg (by omega), if_neg (by omega),
      if_pos (by omega)]
    rfl
  · rw [if_neg (by omega), if_neg (by omega),
      if_neg (by omega)]
    rfl

theorem length_encodeChars (text : List Char) :
    (encodeChars text).length =
      (String.ofList text).utf8ByteSize := by
  induction text with
  | nil => rfl
  | cons c rest ih =>
      rw [encodeChars_cons, List.length_append,
        length_encodeChar, ih, String.ofList_cons,
        String.utf8ByteSize_append,
        String.utf8ByteSize_singleton]

/- A text has as many bytes as the library says. -/
theorem length_encode (text : String) :
    (encode text).length = text.utf8ByteSize := by
  rw [encode, length_encodeChars, String.ofList_toList]

------------------------------------------------------------
-- Texts in Pieces
------------------------------------------------------------

@[simp]
theorem encode_append (left right : String) :
    encode (left ++ right) = encode left ++ encode right := by
  simp [encode]

/- The bytes of texts one after the other. -/
def encodeAll (texts : List String) : Bytes :=
  texts.flatMap encode

@[simp]
theorem encodeAll_nil : encodeAll [] = [] := rfl

@[simp]
theorem encodeAll_cons
    (text : String)
    (texts : List String) :
    encodeAll (text :: texts) =
      encode text ++ encodeAll texts := rfl

@[simp]
theorem encodeAll_append
    (first second : List String) :
    encodeAll (first ++ second) =
      encodeAll first ++ encodeAll second :=
  List.flatMap_append

/- The bytes of joined texts are those of its pieces. -/
theorem encode_join (pieces : List String) :
    encode (String.join pieces) = encodeAll pieces := by
  induction pieces with
  | nil => rfl
  | cons piece rest ih =>
      rw [String.join_cons, encode_append, ih, encodeAll_cons]

end Utf8

end NetPlugin
