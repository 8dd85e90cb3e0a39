import Mathlib.Data.List.Induction
import RefereeGrading.Proofs.Ingest
import RefereeGrading.Wire.Proto2

/-!
# Which STOP each call is paired with

The events of a stream are its calls, in order, each paired with the last STOP since the call
before it, or zero. This rests on one invariant of the reading (`foldl_remember_zero`): after
any prefix, the remembered time is that of the last STOP since the prefix's last call.
-/

namespace RefereeGrading

theorem isCall_bounds {code : Int} (call : isCall code = true) : 8 ≤ code ∧ code ≤ 15 := by
  simp only [isCall, Bool.or_eq_true, decide_eq_true_eq] at call
  omega

theorem isCall_stopCode : isCall stopCode = false := by decide

namespace Event

/-- The STOP time remembered after one more command: a STOP sets it, a call clears it, and any
other command leaves it. -/
def remember (stoppedAt : Int) (command : Command) : Int :=
  if command.code = stopCode then command.issuedAt
  else if isCall command.code then 0 else stoppedAt

/-- The commands of a stream read since its last call: its longest suffix that holds no call. -/
def sinceLastCall (commands : List Command) : List Command :=
  (commands.reverse.takeWhile fun command => !isCall command.code).reverse

/-- The time of the last STOP among some commands, or `0` when none is a STOP. -/
def lastStopTime (commands : List Command) : Int :=
  ((commands.filter fun command => command.code = stopCode).getLast?.map (·.issuedAt)).getD 0

theorem extractFrom_cons (stoppedAt : Int) (command : Command) (rest : List Command) :
    extractFrom stoppedAt (command :: rest) =
      (if isCall command.code then [⟨stoppedAt, command.issuedAt, command.counter, command.code⟩]
        else []) ++ extractFrom (remember stoppedAt command) rest := by
  rw [extractFrom, remember]
  by_cases stop : command.code = stopCode
  · simp [stop, isCall_stopCode]
  · by_cases call : isCall command.code <;> simp [stop, call]

theorem extractFrom_append (stoppedAt : Int) (front back : List Command) :
    extractFrom stoppedAt (front ++ back) =
      extractFrom stoppedAt front ++ extractFrom (front.foldl remember stoppedAt) back := by
  induction front generalizing stoppedAt with
  | nil =>
      rfl
  | cons command rest inductionHypothesis =>
      rw [List.cons_append, extractFrom_cons, extractFrom_cons, inductionHypothesis,
        List.foldl_cons, List.append_assoc]

theorem map_extractFrom (stoppedAt : Int) (commands : List Command) :
    (extractFrom stoppedAt commands).map (fun event => (event.issuedAt, event.counter, event.code)) =
      (commands.filter fun command => isCall command.code).map
        fun command => (command.issuedAt, command.counter, command.code) := by
  induction commands generalizing stoppedAt with
  | nil =>
      rfl
  | cons command rest inductionHypothesis =>
      rw [extractFrom_cons, List.map_append, inductionHypothesis, List.filter_cons]
      by_cases call : isCall command.code <;> simp [call]

theorem length_extractFrom (stoppedAt : Int) (commands : List Command) :
    (extractFrom stoppedAt commands).length =
      commands.countP fun command => isCall command.code := by
  have lengths := congrArg List.length (map_extractFrom stoppedAt commands)
  simpa [List.countP_eq_length_filter] using lengths

theorem sinceLastCall_append_singleton (commands : List Command) (command : Command) :
    sinceLastCall (commands ++ [command]) =
      if isCall command.code then [] else sinceLastCall commands ++ [command] := by
  by_cases call : isCall command.code <;> simp [sinceLastCall, call]

theorem lastStopTime_append_singleton (commands : List Command) (command : Command) :
    lastStopTime (commands ++ [command]) =
      if command.code = stopCode then command.issuedAt else lastStopTime commands := by
  by_cases stop : command.code = stopCode <;> simp [lastStopTime, stop]

/-- After any prefix of a stream read from its start, the remembered time is that of the last
STOP since the prefix's last call. -/
theorem foldl_remember_zero (commands : List Command) :
    commands.foldl remember 0 = lastStopTime (sinceLastCall commands) := by
  -- the prefix grows by one command at a time, from its end
  induction commands using List.reverseRecOn with
  | nil =>
      rfl
  | append_singleton commands command inductionHypothesis =>
      rw [List.foldl_append, List.foldl_cons, List.foldl_nil, inductionHypothesis,
        sinceLastCall_append_singleton, remember]
      by_cases stop : command.code = stopCode
      · simp [stop, isCall_stopCode, lastStopTime_append_singleton]
      · by_cases call : isCall command.code
        · simp [stop, call, lastStopTime]
        · simp [stop, call, lastStopTime_append_singleton]

/-- The event a call closes comes after one event for each call before it, and carries the time of
the last STOP since the call before it. -/
theorem extract_getElem?_call (before after : List Command) {call : Command}
    (isCallCode : isCall call.code = true) :
    (extract (before ++ call :: after))[before.countP fun command => isCall command.code]? =
      some ⟨lastStopTime (sinceLastCall before), call.issuedAt, call.counter, call.code⟩ := by
  rw [extract, extractFrom_append, extractFrom_cons, if_pos isCallCode, foldl_remember_zero,
    ← length_extractFrom 0 before, List.getElem?_append_right (Nat.le_refl _), Nat.sub_self]
  rfl

theorem extract_counters_increase {commands : List Command}
    (increasing : commands.Pairwise fun earlier later => earlier.counter < later.counter) :
    (extract commands).Pairwise fun earlier later => earlier.counter < later.counter := by
  have counters : (extract commands).map (·.counter) =
      (commands.filter fun command => isCall command.code).map (·.counter) := by
    have projected := congrArg (List.map fun fields : Int × Int × Int => fields.2.1)
      (map_extractFrom 0 commands)
    simpa [extract, List.map_map, Function.comp_def] using projected
  have mapped : ((extract commands).map (·.counter)).Pairwise (· < ·) := by
    rw [counters, List.pairwise_map]
    exact increasing.sublist List.filter_sublist
  exact List.pairwise_map.1 mapped

end Event

/-- The events of a command stream are its calls, in order, each with its own time, counter and
code, paired with the time of the last STOP since the call before it (zero when there is none);
every other command is passed over. On the streams of any ingest, every source's events have
strictly increasing counters and codes from 8 to 15, so none is all zeros. -/
theorem extract_pairs_calls_with_last_stop :
    (∀ commands : List Command,
      (Event.extract commands).map (fun event => (event.issuedAt, event.counter, event.code)) =
          (commands.filter fun command => isCall command.code).map
            (fun command => (command.issuedAt, command.counter, command.code)) ∧
        ∀ before call after, commands = before ++ call :: after → isCall call.code = true →
          (Event.extract commands)[before.countP fun command => isCall command.code]? =
            some ⟨Event.lastStopTime (Event.sinceLastCall before), call.issuedAt, call.counter,
              call.code⟩) ∧
    ∀ (pb : Protobuf) (settings : Settings) (datagrams : List Datagram),
      ∀ events ∈ (Ingest.run pb settings datagrams).events,
        events.Pairwise (fun earlier later => earlier.counter < later.counter) ∧
          ∀ event ∈ events, 8 ≤ event.code ∧ event.code ≤ 15 ∧ event ≠ ⟨0, 0, 0, 0⟩ := by
  refine ⟨fun commands => ⟨Event.map_extractFrom 0 commands, ?_⟩, ?_⟩
  · rintro before call after rfl isCallCode
    exact Event.extract_getElem?_call before after isCallCode
  · intro pb settings datagrams events member
    obtain ⟨stream, streamMember, rfl⟩ := List.mem_map.1 member
    have wellformed := Ingest.run_wellformed pb settings datagrams stream streamMember
    refine ⟨Event.extract_counters_increase wellformed.increasing, fun event eventMember => ?_⟩
    have codeBounds := isCall_bounds (Event.isCall_of_mem_extractFrom eventMember)
    refine ⟨codeBounds.1, codeBounds.2, fun allZero => ?_⟩
    rw [allZero] at codeBounds
    exact absurd codeBounds.1 (by decide)

/-- A STOP at time 5 then a goal at time 7: the goal closes the first event, paired with the
STOP. And a box that sends one goal, with counter 1, gives its stream that one event. -/
theorem extract_pairs_calls_with_last_stop_goal :
    isCall 14 = true ∧
      (Event.extract [⟨0, 1, 5, 1⟩, ⟨0, 2, 7, 14⟩])[0]? = some ⟨5, 7, 2, 14⟩ ∧
      [(⟨0, 0, 1, 14⟩ : Event)] ∈
        (Ingest.run Wire.proto2 {} [⟨.text (Text.pointsOf "224.5.23.1"), 10003, 0, [0x20, 14, 0x28, 1]⟩]).events ∧
      [(⟨0, 0, 1, 14⟩ : Event)].Pairwise (fun earlier later => earlier.counter < later.counter) := by
  have paired := (extract_pairs_calls_with_last_stop.1 [⟨0, 1, 5, 1⟩, ⟨0, 2, 7, 14⟩]).2
    [⟨0, 1, 5, 1⟩] ⟨0, 2, 7, 14⟩ [] rfl (by decide)
  have heard : [(⟨0, 0, 1, 14⟩ : Event)] ∈
      (Ingest.run Wire.proto2 {} [⟨.text (Text.pointsOf "224.5.23.1"), 10003, 0, [0x20, 14, 0x28, 1]⟩]).events := by
    decide
  exact ⟨by decide, paired, heard, (extract_pairs_calls_with_last_stop.2 Wire.proto2 {} _ _ heard).1⟩

end RefereeGrading
