import NetPlugin.Proofs.Text.Utf8

/-
  Bytes that read as a text are the bytes of this text.

  Reading is strict: a character that is read has been
  written in the only way that there is.  No character
  begins with a byte that continues another one, so that
  bytes belong to one text at most.

  Main declarations:
    * `Utf8.Continues`
    * `Utf8.sequence_eq_some`
    * `Utf8.encodeChar_append_inj`
    * `Utf8.eq_encodeChars_of_decodeFrom`
    * `Utf8.decode?_eq_some_iff`
-/

------------------------------------------------------------
-- Continuing Bytes
------------------------------------------------------------

namespace NetPlugin

namespace Utf8

/- The bytes that follow the first one of a character. -/
def Continues (b : UInt8) : Prop :=
  0x80 ≤ b.toNat ∧ b.toNat ≤ 0xBF

theorem continues_ofNat
    {n : Nat}
    (hShare : n < 64) :
    Continues (UInt8.ofNat (0x80 + n)) := by
  unfold Continues
  rw [toNat_ofNat_of_lt (by omega)]
  omega

/- A code point has one first byte, which continues none. -/
theorem encodePoint_shape
    {n : Nat}
    (hBound : n < 0x110000) :
    ∃ first tail,
      encodePoint n = first :: tail ∧
        ¬ Continues first ∧
        (∀ b ∈ tail, Continues b) ∧
        (first.toNat = n ∨ 0x80 ≤ n) := by
  unfold encodePoint Continues
  split
  · refine ⟨_, [], rfl, ?_, by simp, ?_⟩ <;>
      rw [toNat_ofNat_of_lt (by omega)] <;> omega
  split
  · refine ⟨_, _, rfl, ?_, ?_, ?_⟩
    · rw [toNat_ofNat_of_lt (by omega)]
      omega
    · rw [List.forall_mem_singleton]
      exact continues_ofNat (by omega)
    · rw [toNat_ofNat_of_lt (by omega)]
      omega
  split
  · refine ⟨_, _, rfl, ?_, ?_, ?_⟩
    · rw [toNat_ofNat_of_lt (by omega)]
      omega
    · rw [List.forall_mem_cons, List.forall_mem_singleton]
      exact
        ⟨continues_ofNat (by omega),
          continues_ofNat (by omega)⟩
    · rw [toNat_ofNat_of_lt (by omega)]
      omega
  · refine ⟨_, _, rfl, ?_, ?_, ?_⟩
    · rw [toNat_ofNat_of_lt (by omega)]
      omega
    · rw [List.forall_mem_cons, List.forall_mem_cons,
        List.forall_mem_singleton]
      exact
        ⟨continues_ofNat (by omega),
          continues_ofNat (by omega),
          continues_ofNat (by omega)⟩
    · rw [toNat_ofNat_of_lt (by omega)]
      omega

theorem encodeChar_shape (c : Char) :
    ∃ first tail,
      encodeChar c = first :: tail ∧
        ¬ Continues first ∧
        (∀ b ∈ tail, Continues b) ∧
        (first.toNat = c.toNat ∨ 0x80 ≤ c.toNat) := by
  apply encodePoint_shape
  have hScalar := isScalar_toNat c
  unfold IsScalar at hScalar
  omega

/- The bytes of a character show where they end. -/
theorem encodeChar_append_inj
    {c d : Char}
    {rest more : Bytes}
    (hSame : encodeChar c ++ rest = encodeChar d ++ more) :
    c = d ∧ rest = more := by
  rcases sequence_encodePoint (isScalar_toNat c) with
    ⟨first, tail, hBytes, hSequence⟩
  rcases sequence_encodePoint (isScalar_toNat d) with
    ⟨other, back, hOther, hSequenceOther⟩
  have hHead : first = other ∧ tail ++ rest = back ++ more := by
    rw [encodeChar, encodeChar, hBytes, hOther] at hSame
    exact List.cons.inj hSame
  have hRead := hSequence rest
  rw [hHead.1, hHead.2, hSequenceOther more] at hRead
  have hChar : d = c := by
    have hBoth := Option.some.inj (Prod.mk.inj hRead).1
    rwa [Char.ofNat_toNat, Char.ofNat_toNat] at hBoth
  subst hChar
  exact ⟨rfl, List.append_cancel_left hSame⟩

------------------------------------------------------------
-- One Character
------------------------------------------------------------

/- What a lead byte says of the bytes that follow it. -/
inductive LeadCourse (byte : Nat) : Lead → Prop
  | two
      {payload : Nat}
      (hByte : byte = 0xC0 + payload)
      (hLeast : 2 ≤ payload)
      (hMost : payload < 32) :
      LeadCourse byte ⟨payload, 1, 0x80, 0xBF⟩
  | three
      {payload low high : Nat}
      (hByte : byte = 0xE0 + payload)
      (hMost : payload < 16)
      (hLow : 0x80 ≤ low)
      (hHigh : high ≤ 0xBF)
      (hOverlong : payload = 0 → 0xA0 ≤ low)
      (hSurrogates : payload = 13 → high ≤ 0x9F) :
      LeadCourse byte ⟨payload, 2, low, high⟩
  | four
      {payload low high : Nat}
      (hByte : byte = 0xF0 + payload)
      (hMost : payload ≤ 4)
      (hLow : 0x80 ≤ low)
      (hHigh : high ≤ 0xBF)
      (hOverlong : payload = 0 → 0x90 ≤ low)
      (hGreatest : payload = 4 → high ≤ 0x8F) :
      LeadCourse byte ⟨payload, 3, low, high⟩

theorem lead?_course
    {byte : Nat}
    {lead : Lead}
    (hLead : lead? byte = some lead) :
    LeadCourse byte lead := by
  unfold lead? at hLead
  split at hLead
  · cases hLead
  split at hLead
  · rw [← Option.some.inj hLead]
    exact
      .two (by omega) (by omega) (by omega)
  split at hLead
  · rw [← Option.some.inj hLead]
    exact
      .three (by omega) (by omega) (by omega)
        (by omega) (by omega) (by omega)
  split at hLead
  · rw [← Option.some.inj hLead]
    exact
      .three (by omega) (by omega) (by omega)
        (by omega) (by omega) (by omega)
  split at hLead
  · rw [← Option.some.inj hLead]
    exact
      .three (by omega) (by omega) (by omega)
        (by omega) (by omega) (by omega)
  split at hLead
  · rw [← Option.some.inj hLead]
    exact
      .four (by omega) (by omega) (by omega)
        (by omega) (by omega) (by omega)
  split at hLead
  · rw [← Option.some.inj hLead]
    exact
      .four (by omega) (by omega) (by omega)
        (by omega) (by omega) (by omega)
  split at hLead
  · rw [← Option.some.inj hLead]
    exact
      .four (by omega) (by omega) (by omega)
        (by omega) (by omega) (by omega)
  · cases hLead

/- The share of a following byte in the code point. -/
theorem trail_succ_eq_some
    {payload taken low high following n count : Nat}
    {bytes : Bytes}
    (hTrail :
      trail payload taken low high (following + 1) bytes =
        (some n, count)) :
    ∃ b rest,
      bytes = b :: rest ∧
        low ≤ b.toNat ∧ b.toNat ≤ high ∧
        trail (payload * 64 + (b.toNat - 0x80)) (taken + 1)
            0x80 0xBF following rest =
          (some n, count) := by
  cases bytes with
  | nil => cases hTrail
  | cons b rest =>
      rw [trail] at hTrail
      split at hTrail
      · rename_i hBounds
        exact ⟨b, rest, rfl, hBounds.1, hBounds.2, hTrail⟩
      · cases hTrail

theorem trail_zero_eq_some
    {payload taken low high n count : Nat}
    {bytes : Bytes}
    (hTrail :
      trail payload taken low high 0 bytes =
        (some n, count)) :
    payload = n ∧ taken = count := by
  rw [trail] at hTrail
  cases hTrail
  exact ⟨rfl, rfl⟩

theorem toNat_ofNat_of_isScalar
    {n : Nat}
    (hScalar : IsScalar n) :
    (Char.ofNat n).toNat = n := by
  have hValid : n.isValidChar := hScalar
  rw [Char.ofNat, dif_pos hValid]
  rfl

theorem eq_ofNat_of_toNat_eq
    {b : UInt8}
    {n : Nat}
    (hSame : b.toNat = n) :
    b = UInt8.ofNat n := by
  rw [← hSame, UInt8.ofNat_toNat]

/- A code point that was read is written the same way. -/
theorem encodeChar_ofNat
    {n : Nat}
    {bytes : Bytes}
    (hScalar : IsScalar n)
    (hBytes : encodePoint n = bytes) :
    encodeChar (Char.ofNat n) = bytes := by
  rw [encodeChar, toNat_ofNat_of_isScalar hScalar, hBytes]

/-
  The bytes of a character that is read are those that are
  written for it.
-/
theorem sequence_eq_some
    {byte : UInt8}
    {rest : Bytes}
    {c : Char}
    {count : Nat}
    (hSequence : sequence byte rest = (some c, count)) :
    ∃ tail later,
      rest = tail ++ later ∧ tail.length = count ∧
        encodeChar c = byte :: tail := by
  have hByte := byte.toNat_lt
  unfold sequence at hSequence
  split at hSequence
  · rename_i hSmall
    cases hSequence
    refine ⟨[], rest, rfl, rfl, ?_⟩
    apply encodeChar_ofNat (Or.inl (by omega))
    rw [encodePoint, if_pos hSmall, UInt8.ofNat_toNat]
  split at hSequence
  · cases hSequence
  rename_i lead hLead
  rcases hTrail :
      trail lead.payload 0 lead.low lead.high lead.following
        rest with
    ⟨point?, taken⟩
  rw [hTrail] at hSequence
  cases point? with
  | none => cases hSequence
  | some n =>
    cases hSequence
    cases lead?_course hLead with
    | @two payload hFirst hLeast hMost =>
        rcases trail_succ_eq_some hTrail with
          ⟨b, more, rfl, hLow, hHigh, hTrail⟩
        dsimp only at hLow hHigh hTrail
        rcases trail_zero_eq_some hTrail with ⟨hPoint, hCount⟩
        have hLead : byte.toNat = 0xC0 + n / 64 := by omega
        have hSecond : b.toNat = 0x80 + n % 64 := by omega
        refine ⟨[b], more, rfl, hCount, ?_⟩
        apply encodeChar_ofNat (Or.inl (by omega))
        rw [encodePoint, if_neg (by omega),
          if_pos (by omega), ← eq_ofNat_of_toNat_eq hLead,
          ← eq_ofNat_of_toNat_eq hSecond]
    | @three payload low high hFirst hMost hLeast hGreatest
        hOverlong hSurrogates =>
        rcases trail_succ_eq_some hTrail with
          ⟨b, after, rfl, hLow, hHigh, hTrail⟩
        dsimp only at hLow hHigh hTrail
        rcases trail_succ_eq_some hTrail with
          ⟨d, more, rfl, hLowLast, hHighLast, hTrail⟩
        rcases trail_zero_eq_some hTrail with ⟨hPoint, hCount⟩
        have hLead : byte.toNat = 0xE0 + n / 4096 := by omega
        have hSecond : b.toNat = 0x80 + n / 64 % 64 := by
          omega
        have hThird : d.toNat = 0x80 + n % 64 := by omega
        have hScalar : IsScalar n := by
          unfold IsScalar
          omega
        refine ⟨[b, d], more, rfl, hCount, ?_⟩
        apply encodeChar_ofNat hScalar
        rw [encodePoint, if_neg (by omega),
          if_neg (by omega), if_pos (by omega),
          ← eq_ofNat_of_toNat_eq hLead,
          ← eq_ofNat_of_toNat_eq hSecond,
          ← eq_ofNat_of_toNat_eq hThird]
    | @four payload low high hFirst hMost hLeast hGreatest
        hOverlong hLast =>
        rcases trail_succ_eq_some hTrail with
          ⟨b, after, rfl, hLow, hHigh, hTrail⟩
        dsimp only at hLow hHigh hTrail
        rcases trail_succ_eq_some hTrail with
          ⟨d, behind, rfl, hLowNext, hHighNext, hTrail⟩
        rcases trail_succ_eq_some hTrail with
          ⟨e, more, rfl, hLowLast, hHighLast, hTrail⟩
        rcases trail_zero_eq_some hTrail with ⟨hPoint, hCount⟩
        have hLead : byte.toNat = 0xF0 + n / 262144 := by
          omega
        have hSecond : b.toNat = 0x80 + n / 4096 % 64 := by
          omega
        have hThird : d.toNat = 0x80 + n / 64 % 64 := by
          omega
        have hFourth : e.toNat = 0x80 + n % 64 := by omega
        have hScalar : IsScalar n := by
          unfold IsScalar
          omega
        refine ⟨[b, d, e], more, rfl, hCount, ?_⟩
        apply encodeChar_ofNat hScalar
        rw [encodePoint, if_neg (by omega),
          if_neg (by omega), if_neg (by omega),
          ← eq_ofNat_of_toNat_eq hLead,
          ← eq_ofNat_of_toNat_eq hSecond,
          ← eq_ofNat_of_toNat_eq hThird,
          ← eq_ofNat_of_toNat_eq hFourth]

------------------------------------------------------------
-- Texts
------------------------------------------------------------

/- The induction is on the length, one character a step. -/
theorem eq_encodeChars_of_decodeFrom
    {bytes : Bytes}
    {text : List Char}
    (hDecode : decodeFrom 0 bytes = some text) :
    bytes = encodeChars text := by
  induction hLength : bytes.length using Nat.strongRecOn
    generalizing bytes text with
  | ind length ih =>
      cases bytes with
      | nil =>
          cases hDecode
          rfl
      | cons byte rest =>
          rw [decodeFrom] at hDecode
          split at hDecode
          · cases hDecode
          rename_i c count hSequence
          rcases sequence_eq_some hSequence with
            ⟨tail, later, rfl, rfl, hChar⟩
          rw [decodeFrom_length_append] at hDecode
          rcases Option.map_eq_some_iff.1 hDecode with
            ⟨cs, hLater, rfl⟩
          have hShorter : later.length < length := by
            rw [← hLength, List.length_cons,
              List.length_append]
            omega
          have hRest := ih _ hShorter hLater rfl
          rw [encodeChars_cons, hChar, ← hRest,
            List.cons_append]

/- A text is read from its own bytes and from no others. -/
theorem decode?_eq_some_iff
    (bytes : Bytes)
    (text : String) :
    decode? bytes = some text ↔ bytes = encode text := by
  constructor
  · intro hDecode
    rcases Option.map_eq_some_iff.1 hDecode with
      ⟨cs, hFrom, rfl⟩
    rw [encode, String.toList_ofList]
    exact eq_encodeChars_of_decodeFrom hFrom
  · rintro rfl
    exact decode?_encode text

end Utf8

end NetPlugin
