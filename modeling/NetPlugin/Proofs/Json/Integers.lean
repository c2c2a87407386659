import NetPlugin.Proofs.Json.Strings

/-
  Reading integers.

  An integer of 64 bits is read back from its digits.  One
  that has more bits is read as some other number, if it is
  read at all.

  Main declarations:
    * `Json.decimal`
    * `Json.readUnsigned_decimal`
    * `Json.numeral_integerText`
    * `Json.readNumber_decimal_ne_integer`
-/

------------------------------------------------------------
-- Digits
------------------------------------------------------------

namespace NetPlugin

namespace Json

/- The digits of a natural number as bytes. -/
def decimal (n : Nat) : Bytes :=
  Utf8.encodeChars (Nat.toDigits 10 n)

theorem encode_repr (n : Nat) :
    Utf8.encode (Nat.repr n) = decimal n := by
  rw [Utf8.encode, Nat.toList_repr, decimal]

theorem decimal_of_lt
    {n : Nat}
    (hOne : n < 10) :
    decimal n = [digitByte n] := by
  rw [decimal, Nat.toDigits_of_lt_base hOne,
    Utf8.encodeChars_cons, encodeChar_digitChar n (by omega)]
  rfl

/- The last digit stands behind those of the tens. -/
theorem decimal_of_le
    {n : Nat}
    (hMore : 10 ≤ n) :
    decimal n =
      decimal (n / 10) ++ [digitByte (n % 10)] := by
  rw [decimal, Nat.toDigits_of_base_le (by decide) hMore,
    Utf8.encodeChars_append, Utf8.encodeChars_cons,
    encodeChar_digitChar _ (by omega)]
  rfl

theorem isDigit_digitByte :
    ∀ digit < 10, isDigit (digitByte digit) = true := by
  decide

theorem digitValue_digitByte :
    ∀ digit < 10, digitValue (digitByte digit) = digit := by
  decide

theorem digitByte_ne_zero :
    ∀ digit < 10,
      0 < digit → digitByte digit ≠ Mark.zero := by
  decide

theorem isDigit_of_mem_decimal
    {n : Nat}
    {b : UInt8}
    (hByte : b ∈ decimal n) :
    isDigit b = true := by
  induction n using Nat.strongRecOn with
  | ind n ih =>
      by_cases hOne : n < 10
      · rw [decimal_of_lt hOne, List.mem_singleton] at hByte
        rw [hByte]
        exact isDigit_digitByte n hOne
      · rw [decimal_of_le (by omega), List.mem_append,
          List.mem_singleton] at hByte
        rcases hByte with hTens | hLast
        · exact ih (n / 10) (by omega) hTens
        · rw [hLast]
          exact isDigit_digitByte _ (by omega)

/- Only zero begins with a zero. -/
theorem decimal_head
    {n : Nat}
    (hPositive : 0 < n) :
    ∃ b tail, decimal n = b :: tail ∧ b ≠ Mark.zero := by
  induction n using Nat.strongRecOn with
  | ind n ih =>
      by_cases hOne : n < 10
      · exact
          ⟨_, [], decimal_of_lt hOne,
            digitByte_ne_zero n hOne hPositive⟩
      · rcases ih (n / 10) (by omega) (by omega) with
          ⟨b, tail, hTens, hHead⟩
        refine
          ⟨b, tail ++ [digitByte (n % 10)], ?_, hHead⟩
        rw [decimal_of_le (by omega), hTens,
          List.cons_append]

------------------------------------------------------------
-- Collecting Digits
------------------------------------------------------------

/- The number of digits that follow those of a number. -/
def digitsNumber
    (number : Nat)
    (digits : Bytes) : Nat :=
  digits.foldl
    (fun value digit => value * 10 + digitValue digit) number

theorem digitsNumber_cons
    (number : Nat)
    (digit : UInt8)
    (rest : Bytes) :
    digitsNumber number (digit :: rest) =
      digitsNumber (number * 10 + digitValue digit)
        rest := by
  simp only [digitsNumber, List.foldl_cons]

theorem digitsNumber_append
    (number : Nat)
    (first second : Bytes) :
    digitsNumber number (first ++ second) =
      digitsNumber (digitsNumber number first) second := by
  simp [digitsNumber]

theorem le_digitsNumber
    (number : Nat)
    (digits : Bytes) :
    number ≤ digitsNumber number digits := by
  induction digits generalizing number with
  | nil => exact Nat.le_refl number
  | cons digit rest ih =>
      have hNext := ih (number * 10 + digitValue digit)
      rw [digitsNumber_cons]
      omega

theorem digitsNumber_decimal (n : Nat) :
    digitsNumber 0 (decimal n) = n := by
  induction n using Nat.strongRecOn with
  | ind n ih =>
      by_cases hOne : n < 10
      · rw [decimal_of_lt hOne, digitsNumber_cons,
          digitValue_digitByte n hOne]
        show 0 * 10 + n = n
        omega
      · rw [decimal_of_le (by omega), digitsNumber_append,
          ih (n / 10) (by omega), digitsNumber_cons,
          digitValue_digitByte _ (by omega)]
        show n / 10 * 10 + n % 10 = n
        omega

/- Digits of a number that fits are all collected. -/
theorem collect_of_le
    {limit number : Nat}
    {digits : Bytes}
    (hFits : digitsNumber number digits ≤ limit) :
    collect limit number digits =
      (digitsNumber number digits, []) := by
  induction digits generalizing number with
  | nil => rfl
  | cons digit rest ih =>
      rw [digitsNumber_cons] at hFits ⊢
      have hNext :=
        le_digitsNumber (number * 10 + digitValue digit) rest
      rw [collect, if_pos (by omega), ih hFits]

/- Of a number that does not, some digits are left. -/
theorem collect_of_lt
    {limit number : Nat}
    {digits : Bytes}
    (hNumber : number ≤ limit)
    (hTooGreat : limit < digitsNumber number digits) :
    (collect limit number digits).2 ≠ [] := by
  induction digits generalizing number with
  | nil =>
      have hSame : digitsNumber number [] = number := rfl
      omega
  | cons digit rest ih =>
      rw [digitsNumber_cons] at hTooGreat
      rw [collect]
      -- The limit is passed behind this digit, or by it.
      split
      · exact ih (by assumption) hTooGreat
      · simp

------------------------------------------------------------
-- The Parts of an Integer
------------------------------------------------------------

/- What follows does not begin with certain bytes. -/
def HeadAvoids
    (avoided : UInt8 → Bool)
    (rest : Bytes) : Prop :=
  ∀ b, rest.head? = some b → avoided b = false

theorem HeadAvoids.leadingDigits_append
    {digits rest : Bytes}
    (hRest : HeadAvoids isDigit rest)
    (hDigits : ∀ b ∈ digits, isDigit b = true) :
    leadingDigits (digits ++ rest) = digits := by
  have hNone : rest.takeWhile isDigit = [] := by
    cases rest with
    | nil => rfl
    | cons b more => simp [hRest b rfl]
  rw [leadingDigits, List.takeWhile_append_of_pos hDigits,
    hNone, List.append_nil]

theorem HeadAvoids.afterDigits_append
    {digits rest : Bytes}
    (hRest : HeadAvoids isDigit rest)
    (hDigits : ∀ b ∈ digits, isDigit b = true) :
    afterDigits (digits ++ rest) = rest := by
  have hAll : rest.dropWhile isDigit = rest := by
    cases rest with
    | nil => rfl
    | cons b more => simp [hRest b rfl]
  rw [afterDigits, List.dropWhile_append_of_pos hDigits,
    hAll]

theorem EndsNumber.head
    {b : UInt8}
    {rest : Bytes}
    (hEnds : EndsNumber (b :: rest)) :
    isDigit b = false ∧ b ≠ Mark.point ∧
      isExponentMark b = false := by
  have hNot := hEnds b rfl
  simpa [continuesNumber, and_assoc] using hNot

/- The end of a number is one of its digits, too. -/
theorem EndsNumber.endsDigits
    {rest : Bytes}
    (hEnds : EndsNumber rest) :
    HeadAvoids isDigit rest := by
  intro b hHead
  have hNot := hEnds b hHead
  simp only [continuesNumber, Bool.or_eq_false_iff] at hNot
  exact hNot.1.1

/- The whole digits are those of the number. -/
theorem wholeDigits_decimal
    (n : Nat)
    {rest : Bytes}
    (hEnds : EndsNumber rest) :
    wholeDigits (decimal n ++ rest) =
      .ok (decimal n, rest) := by
  rcases Nat.eq_zero_or_pos n with rfl | hPositive
  · have hNone : leadingDigits rest = [] :=
      @HeadAvoids.leadingDigits_append [] rest
        hEnds.endsDigits (by simp)
    rw [decimal_of_lt (by decide), List.singleton_append,
      wholeDigits, if_pos (by decide), hNone]
  · rcases decimal_head hPositive with
      ⟨b, tail, hDecimal, hHead⟩
    have hDigits :
        ∀ digit ∈ b :: tail, isDigit digit = true := by
      rw [← hDecimal]
      intro digit hMem
      exact isDigit_of_mem_decimal hMem
    rw [List.forall_mem_cons] at hDigits
    rw [hDecimal, List.cons_append, wholeDigits,
      if_neg hHead, if_pos hDigits.1,
      hEnds.endsDigits.leadingDigits_append hDigits.2,
      hEnds.endsDigits.afterDigits_append hDigits.2]

theorem fractionDigits_of_endsNumber
    {rest : Bytes}
    (hEnds : EndsNumber rest) :
    fractionDigits rest = .ok (none, rest) := by
  cases rest with
  | nil => rfl
  | cons b more =>
      simp only [fractionDigits, hEnds.head.2.1, if_false]

theorem exponentDigits_of_endsNumber
    {rest : Bytes}
    (hEnds : EndsNumber rest) :
    exponentDigits rest = .ok (none, rest) := by
  cases rest with
  | nil => rfl
  | cons b more =>
      simp [exponentDigits, hEnds.head.2.2]

/- A number without sign has no other part. -/
theorem readUnsigned_decimal
    (negative : Bool)
    (n : Nat)
    {rest : Bytes}
    (hEnds : EndsNumber rest) :
    readUnsigned negative (decimal n ++ rest) =
      (numberOf negative (decimal n) none none rest).map
        fun number => (number, rest) := by
  unfold readUnsigned
  rw [Reader.bind_apply, wholeDigits_decimal n hEnds]
  simp only [Reader.bind_apply,
    fractionDigits_of_endsNumber hEnds,
    exponentDigits_of_endsNumber hEnds]

------------------------------------------------------------
-- Values of Integers
------------------------------------------------------------

theorem numberOf_of_le
    (negative : Bool)
    {n : Nat}
    (hFits : n ≤ wordLimit)
    (rest : Bytes) :
    numberOf negative (decimal n) none none rest =
      .ok (integerNumber negative n) := by
  have hCollect :
      collect wordLimit 0 (decimal n) = (n, []) := by
    rw [collect_of_le (by rwa [digitsNumber_decimal]),
      digitsNumber_decimal]
  have hNone : collect wordLimit n [] = (n, []) := rfl
  simp [numberOf, significandOf, hCollect, hNone]

/- What does not fit becomes no integer. -/
theorem numberOf_of_lt
    (negative : Bool)
    {n : Nat}
    (hTooGreat : wordLimit < n)
    (rest : Bytes)
    (value : Int) :
    numberOf negative (decimal n) none none rest ≠
      .ok (.integer value) := by
  have hLeft :
      (collect wordLimit 0 (decimal n)).2 ≠ [] :=
    collect_of_lt (Nat.zero_le _)
      (by rwa [digitsNumber_decimal])
  simp only [numberOf, hLeft, and_false, if_false]
  unfold floatNumber
  split <;> simp

theorem integerNumber_false (n : Nat) :
    integerNumber false n = .integer n := rfl

theorem integerNumber_true
    {n : Nat}
    (hPositive : 0 < n)
    (hFits : n ≤ Nat.pow 2 63) :
    integerNumber true n = .integer (-(n : Int)) := by
  unfold integerNumber
  rw [if_pos rfl, if_neg (by omega)]

------------------------------------------------------------
-- Numerals
------------------------------------------------------------

theorem decimal_cons (n : Nat) :
    ∃ b tail,
      decimal n = b :: tail ∧ isDigit b = true := by
  cases hDecimal : decimal n with
  | nil =>
      simp only [decimal, Utf8.encodeChars,
        List.flatMap_eq_nil_iff] at hDecimal
      rcases List.exists_cons_of_ne_nil
          (Nat.toDigits_ne_nil (n := n) (b := 10)) with
        ⟨c, cs, hDigits⟩
      exact
        absurd (hDecimal c (by simp [hDigits]))
          (Utf8.encodeChar_ne_nil c)
  | cons b tail =>
      refine ⟨b, tail, rfl, ?_⟩
      apply isDigit_of_mem_decimal (n := n)
      rw [hDecimal]
      exact List.mem_cons_self

theorem minus_ne_of_isDigit
    {b : UInt8}
    (hDigit : isDigit b = true) :
    b ≠ Mark.minus := by
  rintro rfl
  cases hDigit

theorem readNumber_decimal
    (n : Nat)
    (rest : Bytes) :
    readNumber (decimal n ++ rest) =
      readUnsigned false (decimal n ++ rest) := by
  rcases decimal_cons n with ⟨b, tail, hDecimal, hDigit⟩
  rw [hDecimal, List.cons_append, readNumber,
    if_neg (minus_ne_of_isDigit hDigit)]

/- The digits of a number that fits are a numeral of it. -/
theorem numeral_decimal
    {n : Nat}
    (hFits : n ≤ wordLimit) :
    Numeral (.integer n) (decimal n) := by
  constructor
  · rcases decimal_cons n with ⟨b, tail, hDecimal, hDigit⟩
    refine ⟨b, tail, hDecimal, ?_⟩
    simp [startsNumber, hDigit]
  · intro rest hEnds
    rw [readNumber_decimal, readUnsigned_decimal _ _ hEnds,
      numberOf_of_le false hFits, integerNumber_false]
    rfl

/- With a sign in front they are one of its opposite. -/
theorem numeral_minus
    {n : Nat}
    (hPositive : 0 < n)
    (hFits : n ≤ Nat.pow 2 63) :
    Numeral (.integer (-(n : Int)))
      (Mark.minus :: decimal n) := by
  have hWord : n ≤ wordLimit := by
    simp only [Nat.pow_eq] at hFits
    unfold wordLimit
    omega
  constructor
  · exact ⟨_, _, rfl, rfl⟩
  · intro rest hEnds
    rw [List.cons_append, readNumber, if_pos rfl,
      readUnsigned_decimal true _ hEnds,
      numberOf_of_le true hWord,
      integerNumber_true hPositive hFits]
    rfl

/- The integers that keep their value. -/
def FitsWord (value : Int) : Prop :=
  -0x8000000000000000 ≤ value ∧ value < 0x10000000000000000

/- The text of an integer that fits is a numeral of it. -/
theorem numeral_integerText
    {value : Int}
    (hFits : FitsWord value) :
    Numeral (.integer value)
      (Utf8.encode (integerText value)) := by
  unfold FitsWord at hFits
  unfold integerText
  rw [Utf8.encode_append, encode_repr]
  by_cases hNegative : value < 0
  · have hSign : Utf8.encode "-" = [Mark.minus] := rfl
    have hMagnitude : value.natAbs ≤ Nat.pow 2 63 := by
      simp only [Nat.pow_eq]
      omega
    have hValue : value = -(value.natAbs : Int) := by
      omega
    have hNumeral :=
      numeral_minus (by omega : 0 < value.natAbs) hMagnitude
    rw [← hValue] at hNumeral
    rw [if_pos hNegative, hSign]
    exact hNumeral
  · have hMagnitude : value.natAbs ≤ wordLimit := by
      unfold wordLimit
      omega
    have hValue : value = (value.natAbs : Int) := by
      omega
    have hNumeral := numeral_decimal hMagnitude
    rw [← hValue] at hNumeral
    rw [if_neg hNegative]
    exact hNumeral

/- A greater number is read as no integer. -/
theorem readNumber_decimal_ne_integer
    {n : Nat}
    (hTooGreat : wordLimit < n)
    {rest : Bytes}
    (hEnds : EndsNumber rest)
    (value : Int)
    (after : Bytes) :
    readNumber (decimal n ++ rest) ≠
      .ok (.integer value, after) := by
  rw [readNumber_decimal, readUnsigned_decimal _ _ hEnds]
  have hNot := numberOf_of_lt false hTooGreat rest value
  cases hNumber : numberOf false (decimal n) none none rest with
  | error failure => simp [Except.map]
  | ok number =>
      rw [hNumber] at hNot
      intro hSame
      simp only [Except.map, Except.ok.injEq, Prod.mk.injEq]
        at hSame
      rw [hSame.1] at hNot
      exact hNot rfl

end Json

end NetPlugin
