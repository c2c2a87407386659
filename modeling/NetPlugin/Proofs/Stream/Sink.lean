import NetPlugin.Proofs.Text.Utf8
import NetPlugin.Stream.Sink

/-
  What a sink keeps of what is written to it, and how
  writing ends.

  It does not matter into which pieces bytes are cut.  They
  are kept whole, and then only a flush can fail; or they
  are cut at the first fault that trying again does not
  overcome, whatever faults come later.

  Main declarations:
    * `Sink.IsWritable` and `printPieces_of_isWritable`
    * `Sink.writePieces_eq_writeAll`
    * `Sink.Stop` and `Sink.stop?`
    * `Sink.writeAll_of_stop?` and `writeAll_of_not_refuses`
    * `Sink.Refuses` and `Sink.Printing`
    * `Sink.Alike` and `Alike.printing`
-/

------------------------------------------------------------
-- Success
------------------------------------------------------------

namespace NetPlugin

namespace Sink

/- A sink that accepts everything and can be flushed. -/
structure IsWritable (sink : Sink) : Prop where
  room : sink.room = none
  flush : sink.flushFault = none

/- It keeps the bytes of all pieces. -/
theorem printPieces_of_isWritable
    {sink : Sink}
    (hWritable : sink.IsWritable)
    (pieces : List String) :
    sink.printPieces pieces =
      (.ok (), sink.keep (Utf8.encodeAll pieces)) := by
  have hFlush :
      (sink.keep (Utf8.encodeAll pieces)).flush = .ok () := by
    simp [flush, keep, hWritable.flush]
  unfold printPieces
  rw [writePieces_of_room_eq_none pieces hWritable.room]
  exact congrArg (·, _) hFlush

theorem IsWritable.keep
    {sink : Sink}
    (hWritable : sink.IsWritable)
    (bytes : Bytes) :
    (sink.keep bytes).IsWritable :=
  ⟨hWritable.room, hWritable.flush⟩

------------------------------------------------------------
-- Changes of a Sink
------------------------------------------------------------

theorem keep_nil (sink : Sink) : sink.keep [] = sink := by
  simp [keep]

@[simp]
theorem keep_keep
    (sink : Sink)
    (first second : Bytes) :
    (sink.keep first).keep second =
      sink.keep (first ++ second) := by
  simp [keep]

@[simp]
theorem written_keep
    (sink : Sink)
    (bytes : Bytes) :
    (sink.keep bytes).written = sink.written ++ bytes :=
  rfl

@[simp]
theorem faults_keep
    (sink : Sink)
    (bytes : Bytes) :
    (sink.keep bytes).faults = sink.faults :=
  rfl

@[simp]
theorem flush_keep
    (sink : Sink)
    (bytes : Bytes) :
    (sink.keep bytes).flush = sink.flush :=
  rfl

@[simp]
theorem written_withFaults
    (sink : Sink)
    (faults : List Fault) :
    (sink.withFaults faults).written = sink.written := by
  cases faults <;> rfl

@[simp]
theorem faults_withFaults
    (sink : Sink)
    (faults : List Fault) :
    (sink.withFaults faults).faults = faults := by
  cases faults <;> rfl

@[simp]
theorem flush_withFaults
    (sink : Sink)
    (faults : List Fault) :
    (sink.withFaults faults).flush = sink.flush := by
  cases faults <;> rfl

@[simp]
theorem withFaults_withFaults
    (sink : Sink)
    (first second : List Fault) :
    (sink.withFaults first).withFaults second =
      sink.withFaults second := by
  cases first <;> cases second <;> rfl

@[simp]
theorem keep_withFaults
    (sink : Sink)
    (faults : List Fault)
    (bytes : Bytes) :
    (sink.withFaults faults).keep bytes =
      (sink.keep bytes).withFaults faults := by
  cases faults <;> rfl

theorem faults_of_room_eq_none
    {sink : Sink}
    (hRoom : sink.room = none) :
    sink.faults = [] := by
  unfold faults
  rw [hRoom]

/- The faults that a sink has change nothing. -/
theorem withFaults_of_faults
    {sink : Sink}
    {next : Fault}
    {later : List Fault}
    (hFaults : sink.faults = next :: later) :
    sink.withFaults (next :: later) = sink := by
  unfold faults at hFaults
  cases hRoom : sink.room with
  | none =>
      rw [hRoom] at hFaults
      cases hFaults
  | some room =>
      rw [hRoom] at hFaults
      cases hFaults
      simp [withFaults, ← hRoom]

@[simp]
theorem Fault.spend_room
    (fault : Fault)
    (count : Nat) :
    (fault.spend count).room = fault.room - count :=
  rfl

@[simp]
theorem Fault.spend_failure
    (fault : Fault)
    (count : Nat) :
    (fault.spend count).failure = fault.failure :=
  rfl

@[simp]
theorem Fault.spend_after
    (fault : Fault)
    (count : Nat)
    (later : List Fault) :
    (fault.spend count).after later = fault.after later :=
  rfl

/- What is accepted before a fault may be accepted in parts. -/
theorem Fault.spend_spend
    (fault : Fault)
    (first second : Nat) :
    (fault.spend first).spend second =
      fault.spend (first + second) := by
  simp [spend, Nat.sub_sub]

------------------------------------------------------------
-- The Next Fault
------------------------------------------------------------

section Next

variable {sink : Sink} {next : Fault} {later : List Fault}
variable {bytes : Bytes}

theorem writeAll_of_faults_eq_nil
    (hFaults : sink.faults = [])
    (bytes : Bytes) :
    sink.writeAll bytes = (.ok (), sink.keep bytes) := by
  unfold writeAll
  rw [hFaults]
  rfl

theorem writeAll_of_fits
    (hFaults : sink.faults = next :: later)
    (hFits : bytes.length ≤ next.room) :
    sink.writeAll bytes =
      (.ok (),
        (sink.keep bytes).withFaults
          (next.spend bytes.length :: later)) := by
  unfold writeAll
  rw [hFaults, writeUnder, if_pos hFits]

/- Behind an interruption the rest is written. -/
theorem writeAll_of_interruption
    (hFaults : sink.faults = next :: later)
    (hExceeds : next.room < bytes.length)
    (hInterruption : next.isInterruption = true) :
    sink.writeAll bytes =
      ((sink.keep (bytes.take next.room)).withFaults
        later).writeAll (bytes.drop next.room) := by
  unfold writeAll
  rw [hFaults, writeUnder, if_neg (Nat.not_le.2 hExceeds),
    if_pos hInterruption, faults_withFaults]

theorem writeAll_of_failure
    (hFaults : sink.faults = next :: later)
    (hExceeds : next.room < bytes.length)
    (hFails : next.isInterruption = false) :
    sink.writeAll bytes =
      (.error next.failure,
        (sink.keep (bytes.take next.room)).withFaults
          (next.after later)) := by
  unfold writeAll
  rw [hFaults, writeUnder, if_neg (Nat.not_le.2 hExceeds),
    if_neg (Bool.eq_false_iff.1 hFails)]

end Next

theorem writeAll_nil (sink : Sink) :
    sink.writeAll [] = (.ok (), sink) := by
  cases hFaults : sink.faults with
  | nil => rw [writeAll_of_faults_eq_nil hFaults, keep_nil]
  | cons next later =>
      have hFits : ([] : Bytes).length ≤ next.room :=
        Nat.zero_le next.room
      rw [writeAll_of_fits hFaults hFits, keep_nil]
      exact congrArg _ (withFaults_of_faults hFaults)

------------------------------------------------------------
-- Pieces
------------------------------------------------------------

/-
  What fits is accepted first, and then the rest is written
  like all of the bytes.  This holds for the next fault, of
  whatever kind it is.
-/
theorem writeAll_append_of_fits
    {sink : Sink}
    {next : Fault}
    {later : List Fault}
    {first : Bytes}
    (hFaults : sink.faults = next :: later)
    (hFirst : first.length ≤ next.room)
    (second : Bytes) :
    sink.writeAll (first ++ second) =
      ((sink.keep first).withFaults
        (next.spend first.length :: later)).writeAll
          second := by
  let middle :=
    (sink.keep first).withFaults
      (next.spend first.length :: later)
  have hMiddle :
      middle.faults = next.spend first.length :: later :=
    faults_withFaults _ _
  have hLength :
      (first ++ second).length =
        first.length + second.length :=
    List.length_append
  have hTake :
      (first ++ second).take next.room =
        first ++ second.take (next.room - first.length) := by
    rw [List.take_append, List.take_of_length_le hFirst]
  have hDrop :
      (first ++ second).drop next.room =
        second.drop (next.room - first.length) := by
    rw [List.drop_append, List.drop_of_length_le hFirst,
      List.nil_append]
  by_cases hSecond : second.length ≤ next.room - first.length
  · rw [writeAll_of_fits hFaults (by omega),
      writeAll_of_fits hMiddle hSecond]
    simp [middle, Fault.spend_spend]
  · have hExceeds :
        next.room < (first ++ second).length := by
      omega
    have hExceedsMiddle :
        (next.spend first.length).room < second.length :=
      Nat.lt_of_not_le hSecond
    cases hKind : next.isInterruption with
    | true =>
        rw [writeAll_of_interruption hFaults hExceeds hKind,
          writeAll_of_interruption hMiddle hExceedsMiddle
            hKind, hTake, hDrop]
        simp [middle]
    | false =>
        rw [writeAll_of_failure hFaults hExceeds hKind,
          writeAll_of_failure hMiddle hExceedsMiddle hKind,
          hTake]
        simp [middle]

/-
  Bytes are written like the parts that they consist of.
  The induction is on the faults, of which the first part
  may meet several.
-/
theorem writeAll_append
    (sink : Sink)
    (first second : Bytes) :
    sink.writeAll (first ++ second) =
      match sink.writeAll first with
      | (.ok (), after) => after.writeAll second
      | (.error error, after) => (.error error, after) := by
  generalize hFaults : sink.faults = faults
  induction faults generalizing sink first with
  | nil =>
      rw [writeAll_of_faults_eq_nil hFaults,
        writeAll_of_faults_eq_nil hFaults]
      simp only [writeAll_of_faults_eq_nil, faults_keep,
        hFaults, keep_keep]
  | cons next later ih =>
      by_cases hFirst : first.length ≤ next.room
      · rw [writeAll_append_of_fits hFaults hFirst,
          writeAll_of_fits hFaults hFirst]
      · have hExceeds := Nat.lt_of_not_le hFirst
        have hLonger :
            next.room < (first ++ second).length := by
          rw [List.length_append]
          omega
        have hLe := Nat.le_of_lt hExceeds
        have hTake :
            (first ++ second).take next.room =
              first.take next.room :=
          List.take_append_of_le_length hLe
        have hDrop :
            (first ++ second).drop next.room =
              first.drop next.room ++ second :=
          List.drop_append_of_le_length hLe
        cases hKind : next.isInterruption with
        | true =>
            rw [writeAll_of_interruption hFaults hLonger hKind,
              writeAll_of_interruption hFaults hExceeds hKind,
              hTake, hDrop]
            exact ih _ _ (faults_withFaults _ _)
        | false =>
            rw [writeAll_of_failure hFaults hLonger hKind,
              writeAll_of_failure hFaults hExceeds hKind,
              hTake]

/-
  It does not matter how bytes are cut into pieces.  The
  induction is on the pieces.
-/
theorem writePieces_eq_writeAll
    (sink : Sink)
    (pieces : List String) :
    sink.writePieces pieces =
      sink.writeAll (Utf8.encodeAll pieces) := by
  induction pieces generalizing sink with
  | nil =>
      rw [Utf8.encodeAll_nil, writeAll_nil]
      rfl
  | cons piece rest ih =>
      rw [writePieces, Utf8.encodeAll_cons, writeAll_append]
      cases hPiece : sink.writeAll (Utf8.encode piece) with
      | mk result after =>
          cases result with
          | error failure => rfl
          | ok written => exact ih after

------------------------------------------------------------
-- Where Writing Stops
------------------------------------------------------------

/-
  A fault at which writing stops, with all the bytes that
  are accepted before it, and the faults behind it.
-/
structure Stop where
  fault : Fault
  later : List Fault
  deriving DecidableEq, Repr

namespace Stop

/- A stop before which some more bytes are accepted. -/
def delay
    (stop : Stop)
    (count : Nat) : Stop :=
  { stop with
    fault :=
      { stop.fault with room := count + stop.fault.room } }

/- A stop before which some bytes were accepted. -/
def spend
    (stop : Stop)
    (count : Nat) : Stop :=
  { stop with fault := stop.fault.spend count }

/- The faults that are left once writing has stopped. -/
def left (stop : Stop) : List Fault :=
  stop.fault.after stop.later

end Stop

/- The first of some faults that is no interruption. -/
def stopOf : List Fault → Option Stop
  | [] => none
  | next :: later =>
      if next.isInterruption then
        (stopOf later).map fun stop => stop.delay next.room
      else some ⟨next, later⟩

/- Where writing to a sink stops, if it does. -/
def stop? (sink : Sink) : Option Stop :=
  stopOf sink.faults

theorem stop?_of_room_eq_none
    {sink : Sink}
    (hRoom : sink.room = none) :
    sink.stop? = none := by
  unfold stop?
  rw [faults_of_room_eq_none hRoom]
  rfl

/- Some bytes reach the fault at which writing stops. -/
def Refuses
    (sink : Sink)
    (bytes : Bytes) : Prop :=
  ∃ stop,
    sink.stop? = some stop ∧ stop.fault.room < bytes.length

theorem stopOf_of_interruption
    {next : Fault}
    (hInterruption : next.isInterruption = true)
    (later : List Fault) :
    stopOf (next :: later) =
      (stopOf later).map fun stop =>
        stop.delay next.room := by
  rw [stopOf, if_pos hInterruption]

theorem stopOf_of_failure
    {next : Fault}
    (hFails : next.isInterruption = false)
    (later : List Fault) :
    stopOf (next :: later) = some ⟨next, later⟩ := by
  rw [stopOf, if_neg (Bool.eq_false_iff.1 hFails)]

/- How many bytes are accepted before the last of faults. -/
def roomOf : List Fault → Nat
  | [] => 0
  | next :: later => next.room + roomOf later

/- A stop at a fault that comes behind interruptions. -/
def Stop.behind
    (interruptions : List Fault)
    (fault : Fault)
    (later : List Fault) : Stop where
  fault :=
    { fault with room := roomOf interruptions + fault.room }
  later := later

/- Behind interruptions writing stops at the next fault. -/
theorem stopOf_append
    {interruptions : List Fault}
    {fault : Fault}
    (hInterruptions :
      ∀ other ∈ interruptions, other.isInterruption = true)
    (hFault : fault.isInterruption = false)
    (later : List Fault) :
    stopOf (interruptions ++ fault :: later) =
      some (.behind interruptions fault later) := by
  induction interruptions with
  | nil =>
      rw [List.nil_append, stopOf_of_failure hFault]
      simp [Stop.behind, roomOf]
  | cons next rest ih =>
      rw [List.forall_mem_cons] at hInterruptions
      rw [List.cons_append,
        stopOf_of_interruption hInterruptions.1,
        ih hInterruptions.2]
      simp [Stop.behind, Stop.delay, roomOf, Nat.add_assoc]

/- Writing never stops at an interruption. -/
theorem isInterruption_of_stopOf
    {faults : List Fault}
    {stop : Stop}
    (hStop : stopOf faults = some stop) :
    stop.fault.isInterruption = false := by
  induction faults generalizing stop with
  | nil => cases hStop
  | cons next later ih =>
      cases hKind : next.isInterruption with
      | true =>
          rw [stopOf_of_interruption hKind,
            Option.map_eq_some_iff] at hStop
          rcases hStop with ⟨behind, hBehind, rfl⟩
          show behind.fault.isInterruption = false
          exact ih hBehind
      | false =>
          rw [stopOf_of_failure hKind] at hStop
          cases hStop
          exact hKind

/- It does not stop if and only if there is nothing else. -/
theorem stopOf_eq_none_iff (faults : List Fault) :
    stopOf faults = none ↔
      ∀ fault ∈ faults, fault.isInterruption = true := by
  induction faults with
  | nil => simp [stopOf]
  | cons next later ih =>
      cases hKind : next.isInterruption <;>
        simp [stopOf, hKind, ih]

theorem Stop.left_of_once
    {stop : Stop}
    (hOnce : stop.fault.once = true) :
    stop.left = stop.later := by
  simp [left, Fault.after, hOnce]

theorem Stop.left_of_not_once
    {faults : List Fault}
    {stop : Stop}
    (hStop : stopOf faults = some stop)
    (hLasts : stop.fault.once = false) :
    stop.left =
      { stop.fault with room := 0 } :: stop.later := by
  simp [left, Fault.after, hLasts,
    isInterruption_of_stopOf hStop]

/- A fault that lasts stops all that is written behind it. -/
theorem stopOf_left_of_not_once
    {faults : List Fault}
    {stop : Stop}
    (hStop : stopOf faults = some stop)
    (hLasts : stop.fault.once = false) :
    stopOf stop.left =
      some { stop with fault := { stop.fault with room := 0 } } := by
  have hFails :
      ({ stop.fault with room := 0 } : Fault).isInterruption =
        false :=
    isInterruption_of_stopOf hStop
  rw [Stop.left_of_not_once hStop hLasts,
    stopOf_of_failure hFails]

/-
  Bytes that reach the stop are cut there.  The induction
  is on the faults: each interruption before the stop has
  accepted its part.
-/
theorem writeAll_of_stop?
    {sink : Sink}
    {stop : Stop}
    {bytes : Bytes}
    (hStop : sink.stop? = some stop)
    (hExceeds : stop.fault.room < bytes.length) :
    sink.writeAll bytes =
      (.error stop.fault.failure,
        (sink.keep (bytes.take stop.fault.room)).withFaults
          stop.left) := by
  unfold stop? at hStop
  generalize hFaults : sink.faults = faults at hStop
  induction faults generalizing sink stop bytes with
  | nil => cases hStop
  | cons next later ih =>
      cases hKind : next.isInterruption with
      | true =>
          rw [stopOf_of_interruption hKind,
            Option.map_eq_some_iff] at hStop
          rcases hStop with ⟨behind, hBehind, rfl⟩
          have hReach :
              next.room + behind.fault.room < bytes.length :=
            hExceeds
          have hRest :
              behind.fault.room <
                (bytes.drop next.room).length := by
            rw [List.length_drop]
            omega
          rw [writeAll_of_interruption hFaults (by omega)
              hKind,
            ih hRest (faults_withFaults _ _) hBehind]
          simp only [keep_withFaults, keep_keep,
            withFaults_withFaults, ← List.take_add]
          rfl
      | false =>
          rw [stopOf_of_failure hKind] at hStop
          cases hStop
          exact writeAll_of_failure hFaults hExceeds hKind

/- A stop that was delayed by more than is spent. -/
theorem Stop.spend_delay_of_le
    (stop : Stop)
    {count more : Nat}
    (hLe : count ≤ more) :
    (stop.delay more).spend count =
      stop.delay (more - count) := by
  simp only [delay, spend, Fault.spend, Stop.mk.injEq,
    Fault.mk.injEq, and_true]
  omega

/- One that was delayed by less. -/
theorem Stop.spend_delay_of_ge
    (stop : Stop)
    {count more : Nat}
    (hGe : more ≤ count) :
    (stop.delay more).spend count =
      stop.spend (count - more) := by
  simp only [delay, spend, Fault.spend, Stop.mk.injEq,
    Fault.mk.injEq, and_true]
  omega

/- Where writing stops once something was accepted. -/
theorem stopOf_spend
    {next : Fault}
    {count : Nat}
    (hLe : count ≤ next.room)
    (later : List Fault) :
    stopOf (next.spend count :: later) =
      (stopOf (next :: later)).map fun stop =>
        stop.spend count := by
  cases hKind : next.isInterruption with
  | true =>
      have hSpent :
          (next.spend count).isInterruption = true := hKind
      rw [stopOf_of_interruption hKind,
        stopOf_of_interruption hSpent, Option.map_map]
      congr 1
      funext stop
      exact (stop.spend_delay_of_le hLe).symm
  | false =>
      have hSpent :
          (next.spend count).isInterruption = false := hKind
      rw [stopOf_of_failure hKind, stopOf_of_failure hSpent]
      rfl

/-
  Bytes that do not reach it are all kept, and it is by so
  much nearer.
-/
theorem writeAll_of_not_refuses
    {sink : Sink}
    {bytes : Bytes}
    (hNot : ¬ sink.Refuses bytes) :
    ∃ after,
      sink.writeAll bytes = (.ok (), after) ∧
        after.written = sink.written ++ bytes ∧
        after.flush = sink.flush ∧
        after.stop? =
          sink.stop?.map fun stop =>
            stop.spend bytes.length := by
  unfold Refuses stop? at *
  generalize hFaults : sink.faults = faults at hNot ⊢
  induction faults generalizing sink bytes with
  | nil =>
      rw [writeAll_of_faults_eq_nil hFaults]
      exact ⟨_, rfl, rfl, rfl, by simp [hFaults, stopOf]⟩
  | cons next later ih =>
      by_cases hFits : bytes.length ≤ next.room
      · rw [writeAll_of_fits hFaults hFits]
        refine ⟨_, rfl, by simp, by simp, ?_⟩
        rw [faults_withFaults]
        exact stopOf_spend hFits later
      · have hExceeds := Nat.lt_of_not_le hFits
        cases hKind : next.isInterruption with
        | true =>
            rw [stopOf_of_interruption hKind] at hNot ⊢
            rw [writeAll_of_interruption hFaults hExceeds
              hKind]
            have hRest :
                ¬ ∃ stop,
                  stopOf later = some stop ∧
                    stop.fault.room <
                      (bytes.drop next.room).length := by
              rintro ⟨stop, hStop, hReach⟩
              apply hNot
              refine ⟨stop.delay next.room, by simp [hStop], ?_⟩
              rw [List.length_drop] at hReach
              show next.room + stop.fault.room < bytes.length
              omega
            rcases ih (faults_withFaults _ _) hRest with
              ⟨after, hWrite, hWritten, hFlush, hStop⟩
            refine ⟨after, hWrite, ?_, ?_, ?_⟩
            · simpa using hWritten
            · simpa using hFlush
            · rw [hStop, Option.map_map, List.length_drop]
              congr 1
              funext stop
              exact
                (stop.spend_delay_of_ge
                  (Nat.le_of_lt hExceeds)).symm
        | false =>
            rw [stopOf_of_failure hKind] at hNot
            exact absurd ⟨_, rfl, hExceeds⟩ hNot

------------------------------------------------------------
-- What Is Kept
------------------------------------------------------------

/- The part of some bytes before a stop, if there is one. -/
def upTo (stop? : Option Stop) (bytes : Bytes) : Bytes :=
  match stop? with
  | none => bytes
  | some stop => bytes.take stop.fault.room

@[simp]
theorem upTo_some (stop : Stop) (bytes : Bytes) :
    upTo (some stop) bytes = bytes.take stop.fault.room :=
  rfl

theorem upTo_prefix
    (stop? : Option Stop)
    (bytes : Bytes) :
    upTo stop? bytes <+: bytes := by
  cases stop? with
  | none => exact List.prefix_rfl
  | some stop => exact List.take_prefix _ _

theorem upTo_of_not_refuses
    {sink : Sink}
    {bytes : Bytes}
    (hNot : ¬ sink.Refuses bytes) :
    upTo sink.stop? bytes = bytes := by
  cases hStop : sink.stop? with
  | none => rfl
  | some stop =>
      apply List.take_of_length_le
      apply Nat.le_of_not_lt
      exact fun hExceeds => hNot ⟨stop, hStop, hExceeds⟩

/- Whatever becomes of bytes, that part of them is kept. -/
theorem written_writeAll
    (sink : Sink)
    (bytes : Bytes) :
    (sink.writeAll bytes).2.written =
      sink.written ++ upTo sink.stop? bytes := by
  by_cases hRefuses : sink.Refuses bytes
  · rcases hRefuses with ⟨stop, hStop, hExceeds⟩
    rw [writeAll_of_stop? hStop hExceeds, hStop]
    simp
  · rcases writeAll_of_not_refuses hRefuses with
      ⟨after, hWrite, hWritten, _⟩
    rw [hWrite, hWritten, upTo_of_not_refuses hRefuses]

/- All bytes are kept if writing them succeeds. -/
theorem written_of_writeAll
    {sink after : Sink}
    {bytes : Bytes}
    (hWrite : sink.writeAll bytes = (.ok (), after)) :
    after.written = sink.written ++ bytes := by
  by_cases hRefuses : sink.Refuses bytes
  · rcases hRefuses with ⟨stop, hStop, hExceeds⟩
    rw [writeAll_of_stop? hStop hExceeds] at hWrite
    cases hWrite
  · rcases writeAll_of_not_refuses hRefuses with
      ⟨other, hOther, hWritten, _⟩
    rw [hWrite] at hOther
    cases hOther
    exact hWritten

theorem written_of_printPieces
    {sink after : Sink}
    {pieces : List String}
    (hPrint : sink.printPieces pieces = (.ok (), after)) :
    after.written =
      sink.written ++ Utf8.encodeAll pieces := by
  unfold printPieces at hPrint
  rw [writePieces_eq_writeAll] at hPrint
  cases hWrite :
      sink.writeAll (Utf8.encodeAll pieces) with
  | mk result next =>
      rw [hWrite] at hPrint
      cases result with
      | error failure => cases hPrint
      | ok value =>
          have hSame : next = after :=
            congrArg Prod.snd hPrint
          rw [← hSame]
          exact written_of_writeAll hWrite

/- Writing fails exactly where bytes are refused. -/
theorem writeAll_eq_ok_iff
    (sink : Sink)
    (bytes : Bytes) :
    (sink.writeAll bytes).1 = .ok () ↔
      ¬ sink.Refuses bytes := by
  constructor
  · rintro hWritten ⟨stop, hStop, hExceeds⟩
    rw [writeAll_of_stop? hStop hExceeds] at hWritten
    cases hWritten
  · intro hNot
    rcases writeAll_of_not_refuses hNot with
      ⟨after, hWrite, _⟩
    rw [hWrite]

/-
  How printing ends, and what the sink has kept: all bytes,
  behind which there is a flush, or those before the fault
  at which writing stops.
-/
inductive Printing
    (sink : Sink)
    (bytes : Bytes)
    (printed : Except IoError Unit × Sink) : Prop
  | whole
      (hNot : ¬ sink.Refuses bytes)
      (hResult : printed.1 = sink.flush)
      (hWritten : printed.2.written = sink.written ++ bytes)
  | cut
      (stop : Stop)
      (hStop : sink.stop? = some stop)
      (hExceeds : stop.fault.room < bytes.length)
      (hPrinted :
        printed =
          (.error stop.fault.failure,
            (sink.keep
              (bytes.take stop.fault.room)).withFaults
                stop.left))

theorem printPieces_printing
    (sink : Sink)
    (pieces : List String) :
    Printing sink (Utf8.encodeAll pieces)
      (sink.printPieces pieces) := by
  unfold printPieces
  rw [writePieces_eq_writeAll]
  by_cases hRefuses : sink.Refuses (Utf8.encodeAll pieces)
  · rcases hRefuses with ⟨stop, hStop, hExceeds⟩
    rw [writeAll_of_stop? hStop hExceeds]
    exact .cut stop hStop hExceeds rfl
  · rcases writeAll_of_not_refuses hRefuses with
      ⟨after, hWrite, hWritten, hFlush, _⟩
    rw [hWrite]
    exact .whole hRefuses hFlush hWritten

------------------------------------------------------------
-- Sinks That Behave Alike
------------------------------------------------------------

/- Two sinks that differ at most in what they hold. -/
structure Alike (one two : Sink) : Prop where
  faults : one.faults = two.faults
  flushFault : one.flushFault = two.flushFault

namespace Alike

variable {one two : Sink}

theorem stop? (hAlike : one.Alike two) :
    one.stop? = two.stop? := by
  unfold Sink.stop?
  rw [hAlike.faults]

theorem flush (hAlike : one.Alike two) :
    one.flush = two.flush := by
  simp [Sink.flush, hAlike.flushFault]

theorem refuses_iff
    (hAlike : one.Alike two)
    (bytes : Bytes) :
    one.Refuses bytes ↔ two.Refuses bytes := by
  simp [Refuses, hAlike.stop?]

/- They keep the same bytes, and end in the same way. -/
theorem printing
    (hAlike : one.Alike two)
    {bytes : Bytes}
    {printed other : Except IoError Unit × Sink}
    (hOne : Printing one bytes printed)
    (hTwo : Printing two bytes other) :
    printed.1 = other.1 ∧
      ∃ added,
        printed.2.written = one.written ++ added ∧
          other.2.written = two.written ++ added := by
  cases hOne with
  | whole hNot hResult hWritten =>
      cases hTwo with
      | whole hNotTwo hResultTwo hWrittenTwo =>
          rw [hResult, hResultTwo, hAlike.flush]
          exact ⟨rfl, bytes, hWritten, hWrittenTwo⟩
      | cut stop hStop hExceeds _ =>
          exact
            absurd
              ((hAlike.refuses_iff bytes).2
                ⟨stop, hStop, hExceeds⟩)
              hNot
  | cut stop hStop hExceeds hPrinted =>
      cases hTwo with
      | whole hNot _ _ =>
          exact
            absurd
              ((hAlike.refuses_iff bytes).1
                ⟨stop, hStop, hExceeds⟩)
              hNot
      | cut stopTwo hStopTwo _ hPrintedTwo =>
          have hSame : stop = stopTwo := by
            rw [hAlike.stop?, hStopTwo] at hStop
            exact (Option.some.inj hStop).symm
          subst hSame
          rw [hPrinted, hPrintedTwo]
          exact
            ⟨rfl, bytes.take stop.fault.room, by simp,
              by simp⟩

end Alike

end Sink

end NetPlugin
