import NetPlugin.Text.Quoted
import NetPlugin.Text.Segments

/-
  Quoted texts can be told apart.

  The escapes of characters are such that none of them
  begins another one, and no escape begins with a quote, so
  that the quote that ends a text is found whatever follows
  it.  Hence equal lists of quoted texts are lists of equal
  texts.

  Main declarations:
    * `Text.Quoted.Escaped` and `escape_escaped`
    * `Text.Quoted.escape_append_inj`
    * `Text.quote_append_inj`
    * `Text.intercalate_quote_append_inj`
-/

------------------------------------------------------------
-- Hexadecimal Numbers
------------------------------------------------------------

namespace NetPlugin

namespace Text

namespace Quoted

/- Digits below sixteen are written in different ways. -/
theorem digitChar_inj :
    ∀ m < 16, ∀ n < 16,
      Nat.digitChar m = Nat.digitChar n → m = n := by
  decide

/- The digits are those of the number divided, and one more. -/
theorem toDigits_inj
    {m n : Nat}
    (hSame : Nat.toDigits 16 m = Nat.toDigits 16 n) :
    m = n := by
  induction m using Nat.strongRecOn generalizing n with
  | ind m ih =>
      rw [Nat.toDigits_eq_if (by decide),
        Nat.toDigits_eq_if (n := n) (by decide)] at hSame
      by_cases hSmall : m < 16 <;> by_cases hOther : n < 16
      · rw [if_pos hSmall, if_pos hOther] at hSame
        exact
          digitChar_inj m hSmall n hOther
            (List.cons.inj hSame).1
      · rw [if_pos hSmall, if_neg hOther] at hSame
        have hLength := congrArg List.length hSame
        simp at hLength
      · rw [if_neg hSmall, if_pos hOther] at hSame
        have hLength := congrArg List.length hSame
        simp at hLength
      · rw [if_neg hSmall, if_neg hOther] at hSame
        rcases List.append_inj' hSame rfl with
          ⟨hFront, hLast⟩
        have hQuotient : m / 16 = n / 16 :=
          ih (m / 16) (by omega) hFront
        have hRemainder : m % 16 = n % 16 :=
          digitChar_inj _ (Nat.mod_lt m (by decide)) _
            (Nat.mod_lt n (by decide)) (List.cons.inj hLast).1
        omega

/- No digit is a closing brace. -/
theorem brace_not_mem_toDigits (n : Nat) :
    '}' ∉ Nat.toDigits 16 n := by
  have hDigit : ∀ d : Nat, '}' ≠ d.digitChar :=
    fun d => (Nat.digitChar_ne '}' rfl).symm
  induction n using Nat.strongRecOn with
  | ind n ih =>
      rw [Nat.toDigits_eq_if (by decide)]
      split
      · simp [hDigit]
      · have hFront := ih (n / 16) (by omega)
        simp [hDigit, hFront]

------------------------------------------------------------
-- Escapes
------------------------------------------------------------

/- The characters that have a letter of their own. -/
def letters : List (Char × Char) :=
  [('"', '"'), ('\\', '\\'), ('\t', 't'), ('\n', 'n'),
    ('\r', 'r'), ('\x00', '0')]

/- The three forms that a character has in quoted text. -/
inductive Escaped : Char → List Char → Prop
  | lettered
      {c letter : Char}
      (hLetter : (c, letter) ∈ letters) :
      Escaped c ['\\', letter]
  | numbered (c : Char) :
      Escaped c
        ('\\' :: 'u' :: '{' ::
          (Nat.toDigits 16 c.toNat ++ ['}']))
  | plain
      {c : Char}
      (hQuote : c ≠ '"')
      (hBackslash : c ≠ '\\') :
      Escaped c [c]

theorem body_cons
    (c : Char)
    (text : List Char) :
    body (c :: text) = escape c ++ body text := rfl

theorem escape_escaped (c : Char) : Escaped c (escape c) := by
  unfold escape
  split
  · subst c
    exact .lettered (by decide)
  split
  · subst c
    exact .lettered (by decide)
  split
  · subst c
    exact .lettered (by decide)
  split
  · subst c
    exact .lettered (by decide)
  split
  · subst c
    exact .lettered (by decide)
  split
  · subst c
    exact .lettered (by decide)
  split
  · exact .numbered c
  · exact .plain ‹_› ‹_›

/- The letters tell their characters apart. -/
theorem letters_inj :
    ∀ one ∈ letters, ∀ other ∈ letters,
      one.2 = other.2 → one.1 = other.1 := by
  decide

/- None of them announces a number. -/
theorem letters_ne_u :
    ∀ pair ∈ letters, pair.2 ≠ 'u' := by
  decide

/- A number ends at its brace. -/
theorem numbered_append_inj
    {c d : Char}
    {rest more : List Char}
    (hSame :
      Nat.toDigits 16 c.toNat ++ '}' :: rest =
        Nat.toDigits 16 d.toNat ++ '}' :: more) :
    c = d ∧ rest = more := by
  have hSegments := congrArg (segments '}') hSame
  rw [segments_append_cons (brace_not_mem_toDigits _),
    segments_append_cons (brace_not_mem_toDigits _)]
    at hSegments
  have hDigits := (List.cons.inj hSegments).1
  rw [hDigits] at hSame
  exact
    ⟨Char.toNat_inj.1 (toDigits_inj hDigits),
      (List.cons.inj (List.append_cancel_left hSame)).2⟩

/- The end of an escaped character is found. -/
theorem Escaped.append_inj
    {c d : Char}
    {written other rest more : List Char}
    (hEscaped : Escaped c written)
    (hOther : Escaped d other)
    (hSame : written ++ rest = other ++ more) :
    c = d ∧ rest = more := by
  cases hEscaped with
  | lettered hLetter =>
      cases hOther with
      | lettered hOtherLetter =>
          simp only [List.cons_append, List.nil_append,
            List.cons.injEq] at hSame
          exact
            ⟨letters_inj _ hLetter _ hOtherLetter hSame.2.1,
              hSame.2.2⟩
      | numbered =>
          simp only [List.cons_append, List.nil_append,
            List.cons.injEq] at hSame
          exact absurd hSame.2.1 (letters_ne_u _ hLetter)
      | plain hQuote hBackslash =>
          exact absurd (List.cons.inj hSame).1.symm hBackslash
  | numbered =>
      cases hOther with
      | lettered hOtherLetter =>
          simp only [List.cons_append, List.nil_append,
            List.cons.injEq] at hSame
          exact
            absurd hSame.2.1.symm
              (letters_ne_u _ hOtherLetter)
      | numbered =>
          simp only [List.cons_append, List.append_assoc,
            List.nil_append, List.cons.injEq, true_and]
            at hSame
          exact numbered_append_inj hSame
      | plain hQuote hBackslash =>
          exact absurd (List.cons.inj hSame).1.symm hBackslash
  | plain hQuote hBackslash =>
      cases hOther with
      | lettered | numbered =>
          exact absurd (List.cons.inj hSame).1 hBackslash
      | plain => exact List.cons.inj hSame

/- Quotes are escaped, so that none begins a character. -/
theorem Escaped.ne_quote_cons
    {c : Char}
    {written rest more : List Char}
    (hEscaped : Escaped c written) :
    written ++ rest ≠ '"' :: more := by
  intro hSame
  cases hEscaped with
  | lettered | numbered =>
      exact absurd (List.cons.inj hSame).1 (by decide)
  | plain hQuote => exact hQuote (List.cons.inj hSame).1

theorem escape_append_inj
    {c d : Char}
    {rest more : List Char}
    (hSame : escape c ++ rest = escape d ++ more) :
    c = d ∧ rest = more :=
  (escape_escaped c).append_inj (escape_escaped d) hSame

theorem escape_append_ne_quote_cons
    (c : Char)
    (rest more : List Char) :
    escape c ++ rest ≠ '"' :: more :=
  (escape_escaped c).ne_quote_cons

------------------------------------------------------------
-- Quoted Texts
------------------------------------------------------------

/- The first quote that is not escaped ends a text. -/
theorem body_append_inj
    {text other rest more : List Char}
    (hSame :
      body text ++ '"' :: rest = body other ++ '"' :: more) :
    text = other ∧ rest = more := by
  induction text generalizing other with
  | nil =>
      cases other with
      | nil => exact ⟨rfl, (List.cons.inj hSame).2⟩
      | cons d others =>
          rw [body_cons, List.append_assoc] at hSame
          exact
            absurd hSame.symm
              (escape_append_ne_quote_cons d _ _)
  | cons c text ih =>
      rw [body_cons, List.append_assoc] at hSame
      cases other with
      | nil =>
          exact
            absurd hSame (escape_append_ne_quote_cons c _ _)
      | cons d others =>
          rw [body_cons, List.append_assoc] at hSame
          rcases escape_append_inj hSame with ⟨hHead, hTail⟩
          rcases ih hTail with ⟨hText, hRest⟩
          exact ⟨by rw [hHead, hText], hRest⟩

end Quoted

theorem toList_quote (text : String) :
    (quote text).toList =
      '"' :: (Quoted.body text.toList ++ ['"']) :=
  String.toList_ofList

/- A quoted text tells what it quotes and where it ends. -/
theorem quote_append_inj
    {text other : String}
    {rest more : List Char}
    (hSame :
      (quote text).toList ++ rest =
        (quote other).toList ++ more) :
    text = other ∧ rest = more := by
  rw [toList_quote, toList_quote] at hSame
  simp only [List.cons_append, List.append_assoc,
    List.nil_append, List.cons.injEq, true_and] at hSame
  rcases Quoted.body_append_inj hSame with ⟨hText, hRest⟩
  exact ⟨String.toList_inj.1 hText, hRest⟩

/-
  What stands behind the first of several texts: nothing, or
  a space and the others.
-/
def behindFirst : List String → List Char
  | [] => []
  | next :: more =>
      ' ' :: (" ".intercalate ((next :: more).map quote)).toList

theorem toList_intercalate_quote_cons
    (text : String)
    (texts : List String) :
    (" ".intercalate ((text :: texts).map quote)).toList =
      (quote text).toList ++ behindFirst texts := by
  cases texts with
  | nil => simp [behindFirst]
  | cons next more => simp [behindFirst]

/-
  A list of quoted texts tells what it quotes as well.  The
  bracket behind it is neither a quote nor a space.
-/
theorem intercalate_quote_append_inj
    {texts others : List String}
    {rest more : List Char}
    (hSame :
      (" ".intercalate (texts.map quote)).toList ++
          ']' :: rest =
        (" ".intercalate (others.map quote)).toList ++
          ']' :: more) :
    texts = others ∧ rest = more := by
  induction texts generalizing others with
  | nil =>
      cases others with
      | nil => exact ⟨rfl, (List.cons.inj hSame).2⟩
      | cons other others =>
          rw [toList_intercalate_quote_cons, toList_quote]
            at hSame
          exact
            absurd (List.cons.inj hSame).1 (by decide)
  | cons text texts ih =>
      rw [toList_intercalate_quote_cons] at hSame
      cases others with
      | nil =>
          rw [toList_quote] at hSame
          exact
            absurd (List.cons.inj hSame).1 (by decide)
      | cons other others =>
          rw [toList_intercalate_quote_cons,
            List.append_assoc, List.append_assoc] at hSame
          rcases quote_append_inj hSame with ⟨rfl, hBehind⟩
          have hRest : texts = others ∧ rest = more := by
            cases texts <;> cases others
            case nil.nil =>
              exact ⟨rfl, (List.cons.inj hBehind).2⟩
            case nil.cons | cons.nil =>
              exact
                absurd (List.cons.inj hBehind).1 (by decide)
            case cons.cons =>
              exact ih (List.cons.inj hBehind).2
          exact ⟨by rw [hRest.1], hRest.2⟩

end Text

end NetPlugin
