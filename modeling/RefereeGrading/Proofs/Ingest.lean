import Mathlib
import RefereeGrading.Ingest

/-!
# What ingesting keeps

Every command that ingesting keeps was decoded from a referee message, whose counter is a
32-bit field and whose command time a 64-bit field, whatever the runtime that reads it. A
command is kept only when its counter is above the last kept counter of its stream, so the
counters of each stream strictly increase. Together these bound what the later stages read: a
stream holds at most `2 ^ 32` commands, each closes at most one event, and every event has
whole-number fields below `2 ^ 64` and a call for its code.
-/

namespace RefereeGrading

/-! ## Decoded commands -/

/-- What a command decoded from the wire satisfies: a whole-number counter below `2 ^ 32`
and a whole-number time below `2 ^ 64`. -/
structure Command.Wellformed (command : Command) : Prop where
  counterNonneg : 0 ≤ command.counter
  counterBelow : command.counter < 2 ^ 32
  issuedNonneg : 0 ≤ command.issuedAt
  issuedBelow : command.issuedAt < 2 ^ 64

theorem Command.decode_wellformed {pb : Protobuf} {payload : List UInt8} {source : Int}
    {command : Command} (decoded : Command.decode pb payload source = .ok command) :
    command.Wellformed := by
  cases read : pb.readReferee payload with
  | error reason =>
      simp [Command.decode, read, Except.mapError, bind, Except.bind] at decoded
  | ok message =>
      simp only [Command.decode, read, Except.mapError, bind, Except.bind] at decoded
      split at decoded
      · rename_i code counter _ _
        cases decoded
        have issuedFits : 0 ≤ (message.issuedAt.map fun time => (time.toNat : Int)).getD 0 ∧
            (message.issuedAt.map fun time => (time.toNat : Int)).getD 0 < 2 ^ 64 := by
          cases message.issuedAt with
          | none => decide
          | some issued =>
              have below := issued.toNat_lt
              simp only [Option.map_some, Option.getD_some]
              omega
        have counterBelow := counter.toNat_lt
        exact ⟨Int.natCast_nonneg _, by dsimp only; omega, issuedFits.1, issuedFits.2⟩
      · cases decoded

/-! ## Streams -/

/-- What every stream of an ingest satisfies: its commands were decoded from the wire, and
their counters strictly increase. -/
structure CommandStream.Wellformed (stream : CommandStream) : Prop where
  decoded : ∀ command ∈ stream.commands, command.Wellformed
  increasing : stream.commands.Pairwise fun earlier later => earlier.counter < later.counter

namespace CommandStream

theorem counter_le_lastCounter {stream : CommandStream} (wellformed : stream.Wellformed)
    {last : Int} (lastKept : stream.lastCounter = some last) :
    ∀ command ∈ stream.commands, command.counter ≤ last := by
  simp only [lastCounter, Option.map_eq_some_iff] at lastKept
  obtain ⟨final, isLast, rfl⟩ := lastKept
  obtain ⟨earlier, split⟩ := List.getLast?_eq_some_iff.1 isLast
  have increasing := wellformed.increasing
  rw [split, List.pairwise_append] at increasing
  intro command member
  rw [split] at member
  rcases List.mem_append.1 member with early | same
  · exact Int.le_of_lt (increasing.2.2 command early final List.mem_cons_self)
  · obtain rfl := List.mem_singleton.1 same
    exact Int.le_refl _

theorem wellformed_append {stream : CommandStream} (wellformed : stream.Wellformed)
    {command : Command} (decoded : command.Wellformed)
    (above : ∀ last, stream.lastCounter = some last → last < command.counter) :
    ({ stream with commands := stream.commands ++ [command] } : CommandStream).Wellformed := by
  refine ⟨?_, ?_⟩
  · intro other member
    rcases List.mem_append.1 member with early | same
    · exact wellformed.decoded other early
    · rw [List.mem_singleton.1 same]
      exact decoded
  · rw [List.pairwise_append]
    refine ⟨wellformed.increasing, List.pairwise_singleton _ _, ?_⟩
    intro earlier member later laterMember
    rw [List.mem_singleton.1 laterMember]
    cases lastKept : stream.lastCounter with
    | none =>
        simp only [lastCounter, Option.map_eq_none_iff, List.getLast?_eq_none_iff] at lastKept
        simp [lastKept] at member
    | some last =>
        exact Int.lt_of_le_of_lt (counter_le_lastCounter wellformed lastKept earlier member)
          (above last lastKept)

/-- A stream holds at most `2 ^ 32` commands: their counters are distinct whole numbers below
`2 ^ 32`. -/
theorem length_commands_le {stream : CommandStream} (wellformed : stream.Wellformed) :
    stream.commands.length ≤ 2 ^ 32 := by
  have distinct : (stream.commands.map fun command => command.counter.toNat).Nodup := by
    rw [List.Nodup, List.pairwise_map]
    refine wellformed.increasing.imp_of_mem fun earlierMember _ below => ?_
    have nonneg := (wellformed.decoded _ earlierMember).counterNonneg
    omega
  have inRange : (stream.commands.map fun command => command.counter.toNat) ⊆
      List.range (2 ^ 32) := by
    intro counter member
    obtain ⟨command, commandMember, rfl⟩ := List.mem_map.1 member
    have below := (wellformed.decoded command commandMember).counterBelow
    rw [List.mem_range]
    omega
  simpa using distinct.length_le_of_subset inRange

end CommandStream

/-! ## Ingesting -/

namespace Ingest

/-- Every stream of the ingest is well formed. -/
def Wellformed (state : Ingest) : Prop :=
  ∀ stream ∈ state.streams, stream.Wellformed

theorem start_wellformed (settings : Settings) : (start settings).Wellformed := by
  intro stream member
  simp only [start, List.mem_singleton] at member
  subst member
  exact ⟨by simp, by simp⟩

theorem sourceIndex_wellformed {state : Ingest} (wellformed : state.Wellformed) (port : Int) :
    (state.sourceIndex port).1.Wellformed := by
  unfold sourceIndex
  split
  · exact wellformed
  · intro stream member
    rcases List.mem_append.1 member with old | new
    · exact wellformed stream old
    · rw [List.mem_singleton.1 new]
      exact ⟨by simp, by simp⟩

theorem getD_wellformed {state : Ingest} (wellformed : state.Wellformed) (index : Nat) :
    (state.streams.getD index default).Wellformed := by
  rw [List.getD_eq_getElem?_getD]
  cases found : state.streams[index]? with
  | none =>
      have empty : (default : CommandStream).commands = [] := rfl
      exact ⟨by simp [empty], by simp [empty]⟩
  | some stream =>
      exact wellformed stream (List.mem_of_getElem? found)

theorem keep_wellformed {state : Ingest} (wellformed : state.Wellformed) (index : Nat)
    {command : Command} (decoded : command.Wellformed) : (state.keep index command).Wellformed := by
  have joined : (∀ last, (state.streams.getD index default).lastCounter = some last →
      last < command.counter) →
      ∀ stream ∈ state.streams.modify index
        (fun s => { s with commands := s.commands ++ [command] }), stream.Wellformed := by
    intro above stream member
    rw [List.modify_eq_set] at member
    rcases List.mem_or_eq_of_mem_set member with old | new
    · exact wellformed stream old
    · rw [new, ← List.getD_eq_getElem?_getD]
      exact CommandStream.wellformed_append (getD_wellformed wellformed index) decoded above
  unfold keep
  dsimp only
  split
  · rename_i last lastKept
    split
    · exact wellformed
    · rename_i above
      exact joined fun other otherKept => by
        rw [lastKept, Option.some.injEq] at otherKept
        omega
  · rename_i lastKept
    exact joined fun other otherKept => by
      rw [lastKept] at otherKept
      cases otherKept

theorem step_wellformed (pb : Protobuf) (settings : Settings) {state : Ingest}
    (wellformed : state.Wellformed) (datagram : Datagram) :
    (step pb settings state datagram).Wellformed := by
  -- only opening a port's stream and keeping a command touch the streams
  have counted : ({ state with records := state.records + 1 } : Ingest).Wellformed := wellformed
  have opened := sourceIndex_wellformed counted datagram.port
  unfold step
  dsimp only
  split
  · split <;> exact wellformed
  · split
    · exact wellformed
    · split
      · rename_i command decoded
        exact keep_wellformed opened _ (Command.decode_wellformed decoded)
      · exact opened

theorem run_wellformed (pb : Protobuf) (settings : Settings) (datagrams : List Datagram) :
    (run pb settings datagrams).Wellformed := by
  unfold run
  have startOk := start_wellformed settings
  generalize start settings = state at startOk ⊢
  induction datagrams generalizing state with
  | nil =>
      exact startOk
  | cons datagram rest inductionHypothesis =>
      exact inductionHypothesis _ (step_wellformed pb settings startOk datagram)

end Ingest

/-! ## Events -/

/-- What an event closed by a decoded call satisfies: whole-number fields, the times below
`2 ^ 64`, the counter below `2 ^ 32`, and a call for its code. -/
structure Event.Wellformed (event : Event) : Prop where
  stoppedNonneg : 0 ≤ event.stoppedAt
  stoppedBelow : event.stoppedAt < 2 ^ 64
  issuedNonneg : 0 ≤ event.issuedAt
  issuedBelow : event.issuedAt < 2 ^ 64
  counterNonneg : 0 ≤ event.counter
  counterBelow : event.counter < 2 ^ 32
  call : isCall event.code = true

namespace Event

theorem extractFrom_wellformed {stoppedAt : Int} {commands : List Command}
    (stoppedNonneg : 0 ≤ stoppedAt) (stoppedBelow : stoppedAt < 2 ^ 64)
    (decoded : ∀ command ∈ commands, command.Wellformed) :
    ∀ event ∈ extractFrom stoppedAt commands, event.Wellformed := by
  induction commands generalizing stoppedAt with
  | nil =>
      simp [extractFrom]
  | cons command rest inductionHypothesis =>
      have head := decoded command List.mem_cons_self
      have restDecoded := fun other member => decoded other (List.mem_cons_of_mem command member)
      have zeroBelow : (0 : Int) < 2 ^ 64 := Int.pow_pos (by decide)
      intro event member
      unfold extractFrom at member
      split at member
      · exact inductionHypothesis head.issuedNonneg head.issuedBelow restDecoded event member
      split at member
      · rename_i call
        rcases List.mem_cons.1 member with rfl | later
        · exact ⟨stoppedNonneg, stoppedBelow, head.issuedNonneg, head.issuedBelow,
            head.counterNonneg, head.counterBelow, call⟩
        · exact inductionHypothesis (Int.le_refl 0) zeroBelow restDecoded event later
      · exact inductionHypothesis stoppedNonneg stoppedBelow restDecoded event member

theorem length_extractFrom_le (stoppedAt : Int) (commands : List Command) :
    (extractFrom stoppedAt commands).length ≤ commands.length := by
  induction commands generalizing stoppedAt with
  | nil =>
      simp [extractFrom]
  | cons command rest inductionHypothesis =>
      unfold extractFrom
      split
      · exact Nat.le_succ_of_le (inductionHypothesis _)
      split
      · exact Nat.succ_le_succ (inductionHypothesis _)
      · exact Nat.le_succ_of_le (inductionHypothesis _)

end Event

theorem Ingest.events_wellformed {state : Ingest} (wellformed : state.Wellformed) :
    ∀ events ∈ state.events, events.length ≤ 2 ^ 32 ∧ ∀ event ∈ events, event.Wellformed := by
  intro events member
  obtain ⟨stream, streamMember, rfl⟩ := List.mem_map.1 member
  have streamOk := wellformed stream streamMember
  exact ⟨Nat.le_trans (Event.length_extractFrom_le 0 _) (CommandStream.length_commands_le streamOk),
    Event.extractFrom_wellformed (Int.le_refl 0) (Int.pow_pos (by decide)) streamOk.decoded⟩

end RefereeGrading
