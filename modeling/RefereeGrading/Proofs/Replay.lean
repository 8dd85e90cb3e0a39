import Mathlib
import RefereeGrading.Playback

/-!
# Replaying on a virtual clock

A `Stage` is a network whose clock moves only by the waits asked for. On a stage every datagram
is sent once and in order, and each send follows the one before by exactly the recorded gap.
The whole replay is `Stage.run_playFrom`, built from the one-step lemma
`Stage.run_playFrom_cons`.
-/

namespace RefereeGrading.Playback

/-- A send on a stage: when it went out, what, and whether the network took it. -/
structure Send where
  time : Int
  datagram : Datagram
  delivered : Bool

/-- A network for an ideal replay: a clock at `time` in microseconds that moves only by
`advance` of each wait, a rule for the sends it refuses (by their position), and what was sent
and waited so far. -/
structure Stage where
  time : Int
  advance : Float → Int
  refuses : Nat → Bool
  sends : List Send := []
  waits : List Float := []

namespace Stage

variable (stage : Stage)

/-- Whether the network takes the next send. -/
def delivers : Bool := !stage.refuses stage.sends.length

/-- The stage after a wait of `seconds`. -/
def paused (seconds : Float) : Stage :=
  { stage with time := stage.time + stage.advance seconds, waits := stage.waits ++ [seconds] }

/-- The stage after sending `datagram`. -/
def sent (datagram : Datagram) : Stage :=
  { stage with sends := stage.sends ++ [⟨stage.time, datagram, stage.delivers⟩] }

@[simp] theorem paused_advance (seconds : Float) : (stage.paused seconds).advance = stage.advance :=
  rfl

@[simp] theorem paused_refuses (seconds : Float) : (stage.paused seconds).refuses = stage.refuses :=
  rfl

@[simp] theorem paused_sends (seconds : Float) : (stage.paused seconds).sends = stage.sends := rfl

@[simp] theorem sent_time (datagram : Datagram) : (stage.sent datagram).time = stage.time := rfl

@[simp] theorem sent_advance (datagram : Datagram) :
    (stage.sent datagram).advance = stage.advance := rfl

@[simp] theorem sent_refuses (datagram : Datagram) :
    (stage.sent datagram).refuses = stage.refuses := rfl

@[simp] theorem length_sent_sends (datagram : Datagram) :
    (stage.sent datagram).sends.length = stage.sends.length + 1 := by
  simp [sent]

@[simp] theorem sent_waits (datagram : Datagram) : (stage.sent datagram).waits = stage.waits :=
  rfl

end Stage

instance : Network (StateM Stage) where
  now := return (← get).time
  pause seconds := modify (·.paused seconds)
  send datagram := modifyGet fun stage => (stage.delivers, stage.sent datagram)

namespace Stage

variable {α : Type} (stage : Stage)

/-- Runs the player's computation on a stage: what it returns or why it halted, and the stage
it leaves. -/
def run (action : ExceptT Halt (StateM Stage) α) : Except Halt α × Stage :=
  StateT.run (ExceptT.run action) stage

@[simp] theorem run_now_bind (next : Int → ExceptT Halt (StateM Stage) α) :
    stage.run (monadLift (Network.now : StateM Stage Int) >>= next) = stage.run (next stage.time) :=
  rfl

@[simp] theorem run_pause_bind (seconds : Float) (next : Unit → ExceptT Halt (StateM Stage) α) :
    stage.run (monadLift (Network.pause seconds : StateM Stage Unit) >>= next) =
      (stage.paused seconds).run (next ()) := rfl

@[simp] theorem run_send_bind (datagram : Datagram)
    (next : Bool → ExceptT Halt (StateM Stage) α) :
    stage.run (monadLift (Network.send datagram : StateM Stage Bool) >>= next) =
      (stage.sent datagram).run (next stage.delivers) := rfl

@[simp] theorem run_throw_bind (halt : Halt) (next : Unit → ExceptT Halt (StateM Stage) α) :
    stage.run (throw halt >>= next) = (.error halt, stage) := rfl

@[simp] theorem run_throw (halt : Halt) : stage.run (throw halt : ExceptT Halt (StateM Stage) α) =
    (.error halt, stage) := rfl

@[simp] theorem run_pure (value : α) : stage.run (pure value) = (.ok value, stage) := rfl

end Stage

/-! ## The recorded schedule -/

/-- The gap a replay keeps between a datagram recorded at `last` and the next one, recorded at
`time`: their difference, never negative, and none after a time of zero or below. -/
def recordedGap (last time : Int) : Int := if 0 < last then max 0 (time - last) else 0

/-- The gaps before each datagram, the first one measured from `last`. -/
def recordedGaps (last : Int) : List Datagram → List Int
  | [] => []
  | datagram :: rest => recordedGap last datagram.timestamp :: recordedGaps datagram.timestamp rest

/-- A wait of `micros` microseconds as the seconds the player hands over. -/
def toSeconds (micros : Int) : Float := Float.ofInt micros / 1000000.0

/-- The sends of an ideal replay of `datagrams`, from the clock reading `time`, the datagram
before them recorded at `last` and the network's count of sends at `index`. -/
def schedule (refuses : Nat → Bool) (index : Nat) (time last : Int) : List Datagram → List Send
  | [] => []
  | datagram :: rest =>
    let time := time + recordedGap last datagram.timestamp
    ⟨time, datagram, !refuses index⟩ ::
      schedule refuses (index + 1) time datagram.timestamp rest

/-- The counts after `sends`. -/
def Counts.record (counts : Counts) (sends : List Send) : Counts :=
  { sent := counts.sent + sends.countP (·.delivered),
    failed := counts.failed + sends.countP (!·.delivered) }

/-- The stage after an ideal replay of `datagrams`, the datagram before them recorded at
`last`. -/
def Stage.replayed (stage : Stage) (last : Int) (datagrams : List Datagram) : Stage :=
  { stage with
    time := stage.time + (recordedGaps last datagrams).sum
    sends := stage.sends ++ schedule stage.refuses stage.sends.length stage.time last datagrams
    waits := stage.waits ++ ((recordedGaps last datagrams).filter (0 < ·)).map toSeconds }

/-- The stage after the wait before a datagram: none for a gap of nothing. -/
def Stage.waited (stage : Stage) (gap : Int) : Stage :=
  if 0 < gap then stage.paused (toSeconds gap) else stage

@[simp] theorem Stage.waited_advance (stage : Stage) (gap : Int) :
    (stage.waited gap).advance = stage.advance := by
  unfold Stage.waited
  split <;> rfl

@[simp] theorem Stage.waited_refuses (stage : Stage) (gap : Int) :
    (stage.waited gap).refuses = stage.refuses := by
  unfold Stage.waited
  split <;> rfl

@[simp] theorem Stage.waited_sends (stage : Stage) (gap : Int) :
    (stage.waited gap).sends = stage.sends := by
  unfold Stage.waited
  split <;> rfl

theorem recordedGap_nonneg (last time : Int) : 0 ≤ recordedGap last time := by
  unfold recordedGap
  split <;> omega

theorem Stage.waited_time (stage : Stage) {gap : Int} (nonneg : 0 ≤ gap)
    (faithful : 0 < gap → stage.advance (toSeconds gap) = gap) :
    (stage.waited gap).time = stage.time + gap := by
  unfold Stage.waited
  split
  next moved => simp [Stage.paused, faithful moved]
  next still => omega

theorem seconds_of_lt {micros : Int} (fits : micros.natAbs < Decimal.overflowThreshold) :
    seconds micros = .ok (toSeconds micros) := by
  simp [seconds, Decimal.wholeToDouble?, fits, toSeconds]

theorem seconds_of_le {micros : Int} (huge : Decimal.overflowThreshold ≤ micros.natAbs) :
    seconds micros = .error Decimal.wholeTooLarge := by
  simp [seconds, Decimal.wholeToDouble?, Nat.not_lt.2 huge]

theorem waitMicros_of_settled {time last now lastSend : Int}
    (settled : lastSend ≤ 0 ∨ lastSend = now) :
    waitMicros time last now lastSend = recordedGap last time := by
  unfold waitMicros recordedGap
  dsimp only
  rcases settled with quiet | rfl
  · split <;> split <;> omega
  · split <;> split <;> omega

theorem Counts.record_record (counts : Counts) (first second : List Send) :
    (counts.record first).record second = counts.record (first ++ second) := by
  simp only [Counts.record, List.countP_append, Counts.mk.injEq]
  omega

theorem Counts.record_single (counts : Counts) (send : Send) :
    counts.record [send] = if send.delivered then { counts with sent := counts.sent + 1 }
      else { counts with failed := counts.failed + 1 } := by
  cases send with
  | mk time datagram delivered => cases delivered <;> simp [Counts.record]

/-! ## One step and a whole run -/

section Run

variable {stage : Stage} {lastSend last : Int} {counts : Counts}

/-- One datagram, on a stage whose clock has not moved since the last send: the player waits
for the recorded gap, which the clock keeps, and sends. -/
theorem Stage.run_playFrom_cons {datagram : Datagram} {rest : List Datagram}
    (settled : lastSend ≤ 0 ∨ lastSend = stage.time)
    (convertible : recordedGap last datagram.timestamp < Decimal.overflowThreshold)
    (faithful : 0 < recordedGap last datagram.timestamp →
      stage.advance (toSeconds (recordedGap last datagram.timestamp)) =
        recordedGap last datagram.timestamp) :
    stage.run (playFrom lastSend last counts (datagram :: rest)) =
      ((stage.waited (recordedGap last datagram.timestamp)).sent datagram).run
        (playFrom (stage.time + recordedGap last datagram.timestamp) datagram.timestamp
          (counts.record [⟨stage.time + recordedGap last datagram.timestamp, datagram,
            stage.delivers⟩]) rest) := by
  have gapNonneg := recordedGap_nonneg last datagram.timestamp
  simp only [playFrom, Stage.run_now_bind, waitMicros_of_settled settled, Counts.record_single]
  by_cases moved : 0 < recordedGap last datagram.timestamp
  · have fits : (recordedGap last datagram.timestamp).natAbs < Decimal.overflowThreshold := by
      omega
    simp [moved, moved.ne', seconds_of_lt fits, Stage.waited, faithful moved, Stage.delivers,
      Stage.paused]
  · have still : recordedGap last datagram.timestamp = 0 := by omega
    simp [still, Stage.waited]

theorem Stage.run_playFrom_cons_of_overflow {datagram : Datagram} {rest : List Datagram}
    (settled : lastSend ≤ 0 ∨ lastSend = stage.time)
    (huge : Decimal.overflowThreshold ≤ recordedGap last datagram.timestamp) :
    stage.run (playFrom lastSend last counts (datagram :: rest)) =
      (.error { counts, reason := Decimal.wholeTooLarge }, stage) := by
  have moved : 0 < recordedGap last datagram.timestamp := by
    have : 0 < Decimal.overflowThreshold := by decide
    omega
  have tooLarge : Decimal.overflowThreshold ≤ (recordedGap last datagram.timestamp).natAbs := by
    omega
  simp [playFrom, waitMicros_of_settled settled, moved.ne', seconds_of_le tooLarge]

theorem Stage.replayed_nil (stage : Stage) (last : Int) : stage.replayed last [] = stage := by
  simp [Stage.replayed, recordedGaps, schedule]

theorem Stage.replayed_cons (stage : Stage) {datagram : Datagram} {rest : List Datagram}
    (faithful : 0 < recordedGap last datagram.timestamp →
      stage.advance (toSeconds (recordedGap last datagram.timestamp)) =
        recordedGap last datagram.timestamp) :
    ((stage.waited (recordedGap last datagram.timestamp)).sent datagram).replayed
        datagram.timestamp rest = stage.replayed last (datagram :: rest) := by
  by_cases moved : 0 < recordedGap last datagram.timestamp
  · simp [Stage.replayed, Stage.waited, Stage.sent, Stage.paused, Stage.delivers, moved,
      faithful moved, recordedGaps, schedule, add_assoc]
  · have still : recordedGap last datagram.timestamp = 0 := by
      have := recordedGap_nonneg last datagram.timestamp
      omega
    simp [Stage.replayed, Stage.waited, Stage.sent, Stage.delivers, still, recordedGaps, schedule]

/-- A whole replay on a stage whose clock has not moved since the last send, when every gap
fits a double and the clock keeps every wait: every datagram is sent, on the recorded
schedule. -/
theorem Stage.run_playFrom (datagrams : List Datagram) :
    ∀ {stage : Stage} {lastSend last : Int} {counts : Counts},
      (lastSend ≤ 0 ∨ lastSend = stage.time) →
      (∀ gap ∈ recordedGaps last datagrams, gap < Decimal.overflowThreshold) →
      (∀ gap ∈ recordedGaps last datagrams, 0 < gap → stage.advance (toSeconds gap) = gap) →
      stage.run (playFrom lastSend last counts datagrams) =
        (.ok (counts.record (schedule stage.refuses stage.sends.length stage.time last datagrams)),
          stage.replayed last datagrams) := by
  induction datagrams with
  | nil =>
    intro stage lastSend last counts _ _ _
    simp [playFrom, schedule, Counts.record, Stage.replayed_nil]
  | cons datagram rest ih =>
    intro stage lastSend last counts settled convertible faithful
    have gapFits := convertible _ (List.mem_cons_self ..)
    have gapKept := faithful _ (List.mem_cons_self ..)
    have restFits : ∀ gap ∈ recordedGaps datagram.timestamp rest,
        gap < Decimal.overflowThreshold :=
      fun gap mem => convertible gap (List.mem_cons_of_mem _ mem)
    have restKept : ∀ gap ∈ recordedGaps datagram.timestamp rest, 0 < gap →
        stage.advance (toSeconds gap) = gap :=
      fun gap mem => faithful gap (List.mem_cons_of_mem _ mem)
    -- after the wait the clock stands at the send's time, and stays there
    have waitedAt := stage.waited_time (recordedGap_nonneg last datagram.timestamp) gapKept
    have sentAt : ((stage.waited (recordedGap last datagram.timestamp)).sent datagram).time =
        stage.time + recordedGap last datagram.timestamp := by
      rw [Stage.sent_time, waitedAt]
    rw [Stage.run_playFrom_cons settled gapFits gapKept,
      ih (Or.inr sentAt.symm) restFits (by simpa using restKept),
      Stage.replayed_cons stage gapKept, Counts.record_record]
    simp [waitedAt, schedule, Stage.delivers]

end Run

/-! ## The schedule's shape -/

section Schedule

variable (refuses : Nat → Bool)

theorem recordedGap_of_nonpos {last : Int} (time : Int) (unset : last ≤ 0) :
    recordedGap last time = 0 := by
  simp [recordedGap, Int.not_lt.2 unset]

theorem map_datagram_schedule (datagrams : List Datagram) :
    ∀ (index : Nat) (time last : Int),
      (schedule refuses index time last datagrams).map Send.datagram = datagrams := by
  induction datagrams with
  | nil => simp [schedule]
  | cons datagram rest ih => simp [schedule, ih]

theorem map_delivered_schedule (datagrams : List Datagram) :
    ∀ (index : Nat) (time last : Int),
      (schedule refuses index time last datagrams).map Send.delivered =
        (List.range' index datagrams.length).map (fun position => !refuses position) := by
  induction datagrams with
  | nil => simp [schedule]
  | cons datagram rest ih => simp [schedule, ih, List.range'_succ]

/-- Each send of the schedule follows the one before by the recorded gap between their
datagrams. -/
theorem schedule_spacing (datagrams : List Datagram) :
    ∀ (index : Nat) (time last : Int) (position : Nat) (earlier later : Send),
      (schedule refuses index time last datagrams)[position]? = some earlier →
      (schedule refuses index time last datagrams)[position + 1]? = some later →
      later.time =
        earlier.time + recordedGap earlier.datagram.timestamp later.datagram.timestamp := by
  induction datagrams with
  | nil => simp [schedule]
  | cons datagram rest ih =>
    intro index time last position earlier later atEarlier atLater
    cases position with
    | zero =>
      cases rest with
      | nil => simp [schedule] at atLater
      | cons next rest =>
        simp only [schedule, List.getElem?_cons_zero, List.getElem?_cons_succ,
          Option.some.injEq] at atEarlier atLater
        subst atEarlier atLater
        rfl
    | succ position =>
      simp only [schedule, List.getElem?_cons_succ] at atEarlier atLater
      exact ih _ _ _ position earlier later atEarlier atLater

theorem schedule_time_of_sorted (datagrams : List Datagram) :
    ∀ (index : Nat) (time last : Int), 0 < last →
      (∀ datagram ∈ datagrams, last ≤ datagram.timestamp) →
      datagrams.Pairwise (fun earlier later => earlier.timestamp ≤ later.timestamp) →
      ∀ send ∈ schedule refuses index time last datagrams,
        send.time = time + (send.datagram.timestamp - last) := by
  induction datagrams with
  | nil => simp [schedule]
  | cons datagram rest ih =>
    intro index time last positive after sorted send mem
    have notBefore : last ≤ datagram.timestamp := after datagram (List.mem_cons_self ..)
    have gap : recordedGap last datagram.timestamp = datagram.timestamp - last := by
      simp [recordedGap, positive]
      omega
    rw [List.pairwise_cons] at sorted
    simp only [schedule, gap, List.mem_cons] at mem
    rcases mem with rfl | later
    · rfl
    · have restTime := ih (index + 1) (time + (datagram.timestamp - last)) datagram.timestamp
        (by omega) sorted.1 sorted.2 send later
      omega

end Schedule

/-! ## Playback on a stage -/

/-- On a virtual clock that keeps every wait, playback sends every datagram once and in order,
counts each refused send as failed, waits only for positive recorded gaps, and sends each
datagram exactly the recorded gap after the one before, so that with positive non-decreasing
timestamps the send times reproduce the recorded offsets, whichever sends fail. -/
theorem replay_keeps_recorded_spacing (datagrams : List Datagram) (start : Int)
    (advance : Float → Int) (refuses : Nat → Bool)
    (convertible : ∀ gap ∈ recordedGaps 0 datagrams, gap < Decimal.overflowThreshold)
    (faithful : ∀ gap ∈ recordedGaps 0 datagrams, 0 < gap → advance (toSeconds gap) = gap) :
    ∃ counts stage, Stage.run { time := start, advance, refuses } (play datagrams) =
        (.ok counts, stage) ∧
      stage.sends.map Send.datagram = datagrams ∧
      stage.sends.map Send.delivered =
        (List.range datagrams.length).map (fun position => !refuses position) ∧
      counts.sent = stage.sends.countP Send.delivered ∧
      counts.failed = stage.sends.countP (!·.delivered) ∧
      counts.sent + counts.failed = datagrams.length ∧
      stage.waits = ((recordedGaps 0 datagrams).filter (0 < ·)).map toSeconds ∧
      (∀ first ∈ stage.sends.head?, first.time = start) ∧
      (∀ (position : Nat) (earlier later : Send), stage.sends[position]? = some earlier →
        stage.sends[position + 1]? = some later →
        later.time = earlier.time + recordedGap earlier.datagram.timestamp
          later.datagram.timestamp) ∧
      ((∀ datagram ∈ datagrams, 0 < datagram.timestamp) →
        datagrams.Pairwise (fun earlier later => earlier.timestamp ≤ later.timestamp) →
        ∀ first ∈ datagrams.head?, ∀ send ∈ stage.sends,
          send.time - start = send.datagram.timestamp - first.timestamp) := by
  have ran := @Stage.run_playFrom datagrams { time := start, advance, refuses } 0 0 {}
    (Or.inl le_rfl) convertible faithful
  refine ⟨_, _, ran, ?_⟩
  simp only [Stage.replayed, List.nil_append, List.length_nil]
  have sentAll := map_datagram_schedule refuses datagrams 0 start 0
  have counted : (schedule refuses 0 start 0 datagrams).length = datagrams.length := by
    simpa using congrArg List.length sentAll
  refine ⟨sentAll,
    by rw [List.range_eq_range']; exact map_delivered_schedule refuses datagrams 0 start 0,
    by simp [Counts.record], by simp [Counts.record], ?_, by simp, ?_,
    schedule_spacing refuses datagrams 0 start 0, ?_⟩
  · simp only [Counts.record, Nat.zero_add]
    rw [← counted, List.length_eq_countP_add_countP Send.delivered]
    simp
  · -- the first datagram waits for nothing
    intro first mem
    cases datagrams with
    | nil => simp [schedule] at mem
    | cons datagram rest =>
      simp only [schedule, List.head?_cons, Option.mem_def, Option.some.injEq] at mem
      simp [← mem, recordedGap_of_nonpos _ le_rfl]
  · intro positive sorted first isFirst send mem
    cases datagrams with
    | nil => simp at isFirst
    | cons datagram rest =>
      simp only [List.head?_cons, Option.mem_def, Option.some.injEq] at isFirst
      subst isFirst
      rw [List.pairwise_cons] at sorted
      simp only [schedule, recordedGap_of_nonpos _ le_rfl, add_zero, List.mem_cons] at mem
      rcases mem with rfl | later
      · simp
      · have restTime := schedule_time_of_sorted refuses rest 1 start datagram.timestamp
          (positive datagram (List.mem_cons_self ..)) sorted.1 sorted.2 send later
        omega

/-- The recorded-timing test of playback: three datagrams a quarter second apart and then
together, the second refused by the network. -/
def quarterSecondCapture : List Datagram :=
  [⟨Address.ofString "224.5.23.2", 10006, 1000000, [0x61]⟩,
    ⟨Address.ofString "224.5.23.1", 10003, 1250000, [0x62]⟩,
    ⟨Address.ofString "224.5.23.1", 10010, 1250000, [0x63]⟩]

theorem replay_keeps_recorded_spacing_quarter_second :
    ∃ counts stage, Stage.run { time := 10000, advance := fun _ => 250000, refuses := (· == 1) }
        (play quarterSecondCapture) = (.ok counts, stage) ∧
      stage.sends.map Send.time = [10000, 260000, 260000] ∧ counts = ⟨2, 1⟩ ∧
      stage.waits = [toSeconds 250000] := by
  obtain ⟨counts, stage, ran, sentAll, delivered, sent, failed, -, waits, first, spacing, -⟩ :=
    replay_keeps_recorded_spacing quarterSecondCapture 10000 (fun _ => 250000) (· == 1)
      (by decide) (by decide)
  obtain ⟨one, two, three, sends⟩ : ∃ one two three, stage.sends = [one, two, three] := by
    have counted := congrArg List.length sentAll
    simp only [List.length_map, quarterSecondCapture, List.length_cons, List.length_nil] at counted
    exact List.length_eq_three.1 counted
  simp only [sends, List.map_cons, List.map_nil, quarterSecondCapture, List.cons.injEq]
    at sentAll delivered
  have atOne : one.time = 10000 := first one (by simp [sends])
  have atTwo := spacing 0 one two (by simp [sends]) (by simp [sends])
  have atThree := spacing 1 two three (by simp [sends]) (by simp [sends])
  refine ⟨counts, stage, ran, ?_, ?_, ?_⟩
  · simp only [sends, List.map_cons, List.map_nil, atThree, atTwo, atOne, sentAll]
    decide
  · simp [List.range_succ] at delivered
    cases counts with
    | mk sentCount failedCount =>
      simp only at sent failed
      simp [sent, failed, sends, delivered]
  · simpa [recordedGaps, recordedGap, quarterSecondCapture] using waits

/-- Two datagrams recorded `overflowThreshold` microseconds apart: the shortest gap that has no
double. -/
def beyondDoubles : List Datagram :=
  [⟨Address.ofString "224.5.23.1", 10003, 1, [0x61]⟩,
    ⟨Address.ofString "224.5.23.1", 10003, Decimal.overflowThreshold + 1, [0x62]⟩]

/-- The shortest gap with no double halts playback before the datagram after it, with only the
one before sent. -/
theorem replay_halts_at_gap_beyond_doubles :
    Stage.run { time := 0, advance := fun _ => 0, refuses := fun _ => false } (play beyondDoubles) =
      (.error ⟨⟨1, 0⟩, Decimal.wholeTooLarge⟩,
        { time := 0, advance := fun _ => 0, refuses := fun _ => false,
          sends := [⟨0, ⟨Address.ofString "224.5.23.1", 10003, 1, [0x61]⟩, true⟩] }) := by
  have noGap : recordedGap 0 1 = 0 := recordedGap_of_nonpos 1 le_rfl
  have hugeGap : Decimal.overflowThreshold ≤ recordedGap 1 (Decimal.overflowThreshold + 1) := by
    simp [recordedGap]
  unfold play beyondDoubles
  rw [Stage.run_playFrom_cons (Or.inl le_rfl) (by rw [noGap]; decide) (by simp [noGap]),
    Stage.run_playFrom_cons_of_overflow (Or.inr (by simp [noGap, Stage.waited])) hugeGap]
  simp [noGap, Stage.waited, Stage.sent, Stage.delivers, Counts.record]

end RefereeGrading.Playback
