import NetPlugin.Proofs.Stream.Sink

/-
  Writing by attempts.

  A stream is asked to take some bytes, and takes a number
  of them, none, or fails.  All bytes are written by asking
  again for those that are left: taking none is an error, a
  failure is one as well, and an interruption is neither.
  It is shown that this comes to what a sink is said to do,
  for every script of faults.

  Main declarations:
    * `Sink.attempt` and `Sink.Attempts`
    * `Sink.writeAll_attempts`
    * `Sink.WritesBy` and `writesBy_iff`
    * `Sink.PrintsBy` and `printsBy_iff`
-/

------------------------------------------------------------
-- Attempts
------------------------------------------------------------

namespace NetPlugin

namespace Sink

/- The answer of an attempt at which a fault strikes. -/
def Fault.answer (fault : Fault) : Except IoError Nat :=
  match fault.error with
  | none => .ok 0
  | some e => .error e

/- One attempt: the number of bytes taken, or a failure. -/
def attempt
    (sink : Sink)
    (bytes : Bytes) : Except IoError Nat × Sink :=
  match sink.faults with
  | [] => (.ok bytes.length, sink.keep bytes)
  | next :: later =>
      if next.room = 0 then
        (next.answer, sink.withFaults (next.after later))
      else
        let taken := min next.room bytes.length
        (.ok taken,
          (sink.keep (bytes.take taken)).withFaults
            (next.spend taken :: later))

/- All bytes are written, or an attempt ends it. -/
inductive Attempts :
    Sink → Bytes → Except IoError Unit × Sink → Prop
  | done (sink : Sink) : Attempts sink [] (.ok (), sink)
  | taken
      {sink after : Sink}
      {bytes : Bytes}
      {written : Except IoError Unit × Sink}
      (count : Nat)
      (hLeft : bytes ≠ [])
      (hAttempt : sink.attempt bytes = (.ok count, after))
      (hSome : 0 < count)
      (hRest : Attempts after (bytes.drop count) written) :
      Attempts sink bytes written
  | short
      {sink after : Sink}
      {bytes : Bytes}
      (hLeft : bytes ≠ [])
      (hAttempt : sink.attempt bytes = (.ok 0, after)) :
      Attempts sink bytes (.error .shortWrite, after)
  | again
      {sink after : Sink}
      {bytes : Bytes}
      {written : Except IoError Unit × Sink}
      (e : IoError)
      (hLeft : bytes ≠ [])
      (hAttempt : sink.attempt bytes = (.error e, after))
      (hInterruption : e.isInterruption = true)
      (hRest : Attempts after bytes written) :
      Attempts sink bytes written
  | failed
      {sink after : Sink}
      {bytes : Bytes}
      (e : IoError)
      (hLeft : bytes ≠ [])
      (hAttempt : sink.attempt bytes = (.error e, after))
      (hNot : e.isInterruption = false) :
      Attempts sink bytes (.error e, after)

variable {sink after : Sink} {bytes : Bytes}

theorem attempt_of_faults_eq_nil
    (hFaults : sink.faults = [])
    (bytes : Bytes) :
    sink.attempt bytes =
      (.ok bytes.length, sink.keep bytes) := by
  unfold attempt
  rw [hFaults]

section Next

variable {next : Fault} {later : List Fault}

/- Where nothing more is accepted the fault strikes. -/
theorem attempt_of_full
    (hFaults : sink.faults = next :: later)
    (hFull : next.room = 0)
    (bytes : Bytes) :
    sink.attempt bytes =
      (next.answer, sink.withFaults (next.after later)) := by
  unfold attempt
  rw [hFaults]
  exact if_pos hFull

theorem attempt_of_pos
    (hFaults : sink.faults = next :: later)
    (hPos : 0 < next.room)
    (bytes : Bytes) :
    sink.attempt bytes =
      (.ok (min next.room bytes.length),
        (sink.keep
          (bytes.take
            (min next.room bytes.length))).withFaults
              (next.spend (min next.room bytes.length) ::
                later)) := by
  unfold attempt
  rw [hFaults]
  exact if_neg (Nat.ne_of_gt hPos)

/- An interruption leaves the faults that come later. -/
theorem Fault.after_of_interruption
    (hInterruption : next.isInterruption = true)
    (later : List Fault) :
    next.after later = later := by
  simp [after, hInterruption]

/-
  The attempt at which a fault strikes ends the writing, or
  it was interrupted and the later faults are what counts.
-/
theorem attempts_of_full
    (hFaults : sink.faults = next :: later)
    (hFull : next.room = 0)
    (hLeft : bytes ≠ [])
    (hLater :
      Attempts (sink.withFaults later) bytes
        ((sink.withFaults later).writeAll bytes)) :
    Attempts sink bytes (sink.writeAll bytes) := by
  have hExceeds : next.room < bytes.length := by
    rw [hFull]
    exact List.length_pos_iff.2 hLeft
  have hAttempt := attempt_of_full hFaults hFull bytes
  unfold Fault.answer at hAttempt
  cases hKind : next.isInterruption with
  | true =>
      rw [writeAll_of_interruption hFaults hExceeds hKind,
        hFull, List.take_zero, keep_nil, List.drop_zero]
      rw [Fault.after_of_interruption hKind] at hAttempt
      unfold Fault.isInterruption Fault.failure at hKind
      cases hError : next.error with
      | none =>
          rw [hError] at hKind
          cases hKind
      | some e =>
          rw [hError] at hAttempt hKind
          exact .again e hLeft hAttempt hKind hLater
  | false =>
      rw [writeAll_of_failure hFaults hExceeds hKind, hFull,
        List.take_zero, keep_nil]
      unfold Fault.isInterruption Fault.failure at hKind
      unfold Fault.failure
      cases hError : next.error with
      | none =>
          rw [hError] at hAttempt
          exact .short hLeft hAttempt
      | some e =>
          rw [hError] at hAttempt hKind
          exact .failed e hLeft hAttempt hKind

/- What is taken first makes no difference to the rest. -/
theorem writeAll_of_taken
    {count : Nat}
    (hFaults : sink.faults = next :: later)
    (hCount : count ≤ next.room)
    (hLength : count ≤ bytes.length) :
    sink.writeAll bytes =
      ((sink.keep (bytes.take count)).withFaults
        (next.spend count :: later)).writeAll
          (bytes.drop count) := by
  have hTaken : (bytes.take count).length = count := by
    rw [List.length_take, Nat.min_eq_left hLength]
  have hFits : (bytes.take count).length ≤ next.room := by
    rw [hTaken]
    exact hCount
  have hWhole :=
    writeAll_append_of_fits hFaults hFits (bytes.drop count)
  rw [List.take_append_drop, hTaken] at hWhole
  exact hWhole

/-
  What is accepted before a fault is taken first, and then
  the fault strikes if there is more.
-/
theorem attempts_of_pos
    (hFaults : sink.faults = next :: later)
    (hPos : 0 < next.room)
    (hLeft : bytes ≠ [])
    (hLater :
      ∀ (other : Sink) (rest : Bytes),
        other.faults = later →
          Attempts other rest (other.writeAll rest)) :
    Attempts sink bytes (sink.writeAll bytes) := by
  have hLength : 0 < bytes.length :=
    List.length_pos_iff.2 hLeft
  rw [writeAll_of_taken hFaults
    (Nat.min_le_left next.room bytes.length)
    (Nat.min_le_right next.room bytes.length)]
  apply Attempts.taken _ hLeft
    (attempt_of_pos hFaults hPos bytes)
    (Nat.lt_min.2 ⟨hPos, hLength⟩)
  by_cases hFits : bytes.length ≤ next.room
  · rw [Nat.min_eq_right hFits, List.drop_length,
      writeAll_nil]
    exact .done _
  · have hExceeds := Nat.lt_of_not_le hFits
    rw [Nat.min_eq_left (Nat.le_of_lt hExceeds)]
    apply attempts_of_full (faults_withFaults _ _)
    · exact Nat.sub_self next.room
    · exact fun hNone => hFits (List.drop_eq_nil_iff.1 hNone)
    · exact hLater _ _ (faults_withFaults _ _)

end Next

/-
  Writing all bytes is what the attempts come to.  The
  induction is on the faults.
-/
theorem writeAll_attempts
    (sink : Sink)
    (bytes : Bytes) :
    Attempts sink bytes (sink.writeAll bytes) := by
  generalize hFaults : sink.faults = faults
  induction faults generalizing sink bytes with
  | nil =>
      by_cases hLeft : bytes = []
      · rw [hLeft, writeAll_nil]
        exact .done sink
      · rw [writeAll_of_faults_eq_nil hFaults]
        apply Attempts.taken bytes.length hLeft
          (attempt_of_faults_eq_nil hFaults bytes)
          (List.length_pos_iff.2 hLeft)
        rw [List.drop_length]
        exact .done _
  | cons next later ih =>
      by_cases hLeft : bytes = []
      · rw [hLeft, writeAll_nil]
        exact .done sink
      · by_cases hPos : 0 < next.room
        · exact attempts_of_pos hFaults hPos hLeft ih
        · apply attempts_of_full hFaults
            (Nat.eq_zero_of_not_pos hPos) hLeft
          exact ih _ bytes (faults_withFaults _ _)

/- Attempts come to one end. -/
theorem Attempts.unique
    {one two : Except IoError Unit × Sink}
    (hOne : Attempts sink bytes one)
    (hTwo : Attempts sink bytes two) :
    one = two := by
  induction hOne with
  | done sink =>
      cases hTwo with
      | done => rfl
      | taken _ hLeft => exact absurd rfl hLeft
      | short hLeft => exact absurd rfl hLeft
      | again _ hLeft => exact absurd rfl hLeft
      | failed _ hLeft => exact absurd rfl hLeft
  | taken count hLeft hAttempt hSome hRest ih =>
      cases hTwo with
      | done => exact absurd rfl hLeft
      | taken other _ hOther _ hOtherRest =>
          cases hAttempt.symm.trans hOther
          exact ih hOtherRest
      | short _ hOther =>
          cases hAttempt.symm.trans hOther
          exact absurd hSome (Nat.lt_irrefl 0)
      | again _ _ hOther =>
          cases hAttempt.symm.trans hOther
      | failed _ _ hOther =>
          cases hAttempt.symm.trans hOther
  | short hLeft hAttempt =>
      cases hTwo with
      | done => exact absurd rfl hLeft
      | taken _ _ hOther hSome =>
          cases hAttempt.symm.trans hOther
          exact absurd hSome (Nat.lt_irrefl 0)
      | short _ hOther =>
          cases hAttempt.symm.trans hOther
          rfl
      | again _ _ hOther =>
          cases hAttempt.symm.trans hOther
      | failed _ _ hOther =>
          cases hAttempt.symm.trans hOther
  | again e hLeft hAttempt hInterruption hRest ih =>
      cases hTwo with
      | done => exact absurd rfl hLeft
      | taken _ _ hOther =>
          cases hAttempt.symm.trans hOther
      | short _ hOther =>
          cases hAttempt.symm.trans hOther
      | again _ _ hOther _ hOtherRest =>
          cases hAttempt.symm.trans hOther
          exact ih hOtherRest
      | failed _ _ hOther hNot =>
          cases hAttempt.symm.trans hOther
          rw [hInterruption] at hNot
          cases hNot
  | failed e hLeft hAttempt hNot =>
      cases hTwo with
      | done => exact absurd rfl hLeft
      | taken _ _ hOther =>
          cases hAttempt.symm.trans hOther
      | short _ hOther =>
          cases hAttempt.symm.trans hOther
      | again _ _ hOther hInterruption =>
          cases hAttempt.symm.trans hOther
          rw [hInterruption] at hNot
          cases hNot
      | failed _ _ hOther =>
          cases hAttempt.symm.trans hOther
          rfl

------------------------------------------------------------
-- Pieces by Attempts
------------------------------------------------------------

/- Pieces are written one after the other, up to a failure. -/
inductive WritesBy :
    Sink → List String → Except IoError Unit × Sink →
      Prop
  | done (sink : Sink) : WritesBy sink [] (.ok (), sink)
  | next
      {sink after : Sink}
      {piece : String}
      {rest : List String}
      {written : Except IoError Unit × Sink}
      (hPiece :
        Attempts sink (Utf8.encode piece) (.ok (), after))
      (hRest : WritesBy after rest written) :
      WritesBy sink (piece :: rest) written
  | failed
      {sink after : Sink}
      {piece : String}
      (e : IoError)
      (rest : List String)
      (hPiece :
        Attempts sink (Utf8.encode piece) (.error e, after)) :
      WritesBy sink (piece :: rest) (.error e, after)

/-
  Pieces are written as the attempts come to, each of them.
  The induction is on the pieces.
-/
theorem writePieces_writesBy
    (sink : Sink)
    (pieces : List String) :
    WritesBy sink pieces (sink.writePieces pieces) := by
  induction pieces generalizing sink with
  | nil => exact .done sink
  | cons piece rest ih =>
      have hPiece :=
        writeAll_attempts sink (Utf8.encode piece)
      cases hWrite : sink.writeAll (Utf8.encode piece) with
      | mk result after =>
          rw [hWrite] at hPiece
          unfold writePieces
          rw [hWrite]
          cases result with
          | error e => exact .failed e rest hPiece
          | ok written => exact .next hPiece (ih after)

/- Writing by attempts comes to one end. -/
theorem WritesBy.unique
    {pieces : List String}
    {one two : Except IoError Unit × Sink}
    (hOne : WritesBy sink pieces one)
    (hTwo : WritesBy sink pieces two) :
    one = two := by
  induction hOne with
  | done sink =>
      cases hTwo
      rfl
  | next hPiece hRest ih =>
      cases hTwo with
      | next hOther hOtherRest =>
          cases hPiece.unique hOther
          exact ih hOtherRest
      | failed e rest hOther => cases hPiece.unique hOther
  | failed e rest hPiece =>
      cases hTwo with
      | next hOther => cases hPiece.unique hOther
      | failed e rest hOther =>
          cases hPiece.unique hOther
          rfl

theorem writesBy_iff
    (sink : Sink)
    (pieces : List String)
    (written : Except IoError Unit × Sink) :
    WritesBy sink pieces written ↔
      written = sink.writePieces pieces := by
  have hWrites := sink.writePieces_writesBy pieces
  constructor
  · intro hOther
    exact hOther.unique hWrites
  · rintro rfl
    exact hWrites

------------------------------------------------------------
-- Printing by Attempts
------------------------------------------------------------

/-
  The pieces of a text are written one after the other, up
  to a failure; behind the last one there is a flush.
-/
inductive PrintsBy :
    Sink → List String → Except IoError Unit × Sink →
      Prop
  | flushed (sink : Sink) : PrintsBy sink [] (sink.flush, sink)
  | next
      {sink after : Sink}
      {piece : String}
      {rest : List String}
      {printed : Except IoError Unit × Sink}
      (hPiece :
        Attempts sink (Utf8.encode piece) (.ok (), after))
      (hRest : PrintsBy after rest printed) :
      PrintsBy sink (piece :: rest) printed
  | failed
      {sink after : Sink}
      {piece : String}
      (e : IoError)
      (rest : List String)
      (hPiece :
        Attempts sink (Utf8.encode piece) (.error e, after)) :
      PrintsBy sink (piece :: rest) (.error e, after)

/- A flush, unless writing has failed before it. -/
def flushed
    (written : Except IoError Unit × Sink) :
    Except IoError Unit × Sink :=
  match written with
  | (.ok (), after) => (after.flush, after)
  | (.error e, after) => (.error e, after)

/- Printing is writing, and then a flush. -/
theorem printsBy_iff_writesBy
    (pieces : List String)
    (printed : Except IoError Unit × Sink) :
    PrintsBy sink pieces printed ↔
      ∃ written,
        WritesBy sink pieces written ∧
          printed = flushed written := by
  constructor
  · intro hPrints
    induction hPrints with
    | flushed sink => exact ⟨_, .done sink, rfl⟩
    | next hPiece _ ih =>
        rcases ih with ⟨written, hRest, hFlushed⟩
        exact ⟨written, .next hPiece hRest, hFlushed⟩
    | failed e rest hPiece =>
        exact ⟨_, .failed e rest hPiece, rfl⟩
  · rintro ⟨written, hWrites, rfl⟩
    induction hWrites with
    | done sink => exact .flushed sink
    | next hPiece _ ih => exact .next hPiece ih
    | failed e rest hPiece => exact .failed e rest hPiece

theorem printsBy_iff
    (sink : Sink)
    (pieces : List String)
    (printed : Except IoError Unit × Sink) :
    PrintsBy sink pieces printed ↔
      printed = sink.printPieces pieces := by
  have hPrint :
      sink.printPieces pieces =
        flushed (sink.writePieces pieces) := rfl
  rw [printsBy_iff_writesBy, hPrint]
  simp only [writesBy_iff, exists_eq_left]

end Sink

end NetPlugin
