import RefereeGrading.Proofs.Discovery

/-!
# Datagrams delivered twice

A datagram delivered again after its first delivery changes no stream, only counts. A step
reads nothing of a state but its streams (`step_eq_extend`); streams only grow (`Grown`); and
a state that has seen a referee datagram absorbs its copies (`Absorbs`).
-/

namespace RefereeGrading

section Outcomes

variable {ε α : Type}

@[simp]
theorem isOk_ok (value : α) : (Except.ok value : Except ε α).isOk = true :=
  rfl

@[simp]
theorem isOk_error (problem : ε) : (Except.error problem : Except ε α).isOk = false :=
  rfl

end Outcomes

namespace Ingest

variable {pb : Protobuf}

/-! ## A step adds to the counts -/

/-- `state` followed by `effect`, the effect of a step taken from `state`'s streams with no
counts: `effect`'s streams, the counts added up, and `effect`'s warnings after `state`'s. -/
def extend (state effect : Ingest) : Ingest :=
  { streams := effect.streams
    records := state.records + effect.records
    visionRecords := state.visionRecords + effect.visionRecords
    rejected := state.rejected + effect.rejected
    duplicates := state.duplicates + effect.duplicates
    warnings := state.warnings ++ effect.warnings }

theorem sourceIndex_eq_extend (state : Ingest) (port : Int) :
    state.sourceIndex port =
      (state.extend (({ streams := state.streams } : Ingest).sourceIndex port).1,
        (({ streams := state.streams } : Ingest).sourceIndex port).2) := by
  unfold sourceIndex
  cases state.streams.findIdx? fun stream => stream.port = port <;> simp [extend]

theorem keep_eq_extend (state : Ingest) (index : Nat) (command : Command) :
    state.keep index command =
      state.extend (({ streams := state.streams } : Ingest).keep index command) := by
  rw [keep_eq_ite, keep_eq_ite]
  split <;> simp [extend]

/-- A step reads nothing of a state but its streams: it is the step taken from the streams
alone, added to the state's counts and warnings. -/
theorem step_eq_extend (settings : Settings) (state : Ingest) (datagram : Datagram) :
    step pb settings state datagram =
      state.extend (step pb settings { streams := state.streams } datagram) := by
  unfold step
  dsimp only
  split
  · split <;> simp [extend]
  · split
    · simp [extend]
    · rw [sourceIndex_eq_extend,
        sourceIndex_eq_extend ({ streams := state.streams, records := 0 + 1 } : Ingest)]
      dsimp only
      split
      · rw [keep_eq_extend, keep_eq_extend (extend _ _)]
        simp [extend, Nat.add_assoc]
      · simp [extend, Nat.add_assoc]

/-- `later` holds the streams of `earlier` and counts `moreRecords`, `moreVision`,
`moreRejected` and `moreDuplicates` more. -/
structure Ahead (earlier later : Ingest) (moreRecords moreVision moreRejected moreDuplicates : Nat) :
    Prop where
  streams : later.streams = earlier.streams
  records : later.records = earlier.records + moreRecords
  visionRecords : later.visionRecords = earlier.visionRecords + moreVision
  rejected : later.rejected = earlier.rejected + moreRejected
  duplicates : later.duplicates = earlier.duplicates + moreDuplicates

section Counts

variable (pb) (settings : Settings) {earlier later : Ingest}
  {moreRecords moreVision moreRejected moreDuplicates : Nat}

theorem ahead_step (ahead : Ahead earlier later moreRecords moreVision moreRejected moreDuplicates)
    (datagram : Datagram) :
    Ahead (step pb settings earlier datagram) (step pb settings later datagram)
      moreRecords moreVision moreRejected moreDuplicates := by
  obtain ⟨streams, records, vision, rejected, duplicates⟩ := ahead
  rw [step_eq_extend settings earlier, step_eq_extend settings later, streams]
  refine ⟨rfl, ?_, ?_, ?_, ?_⟩ <;> simp only [extend] <;> omega

theorem ahead_foldl (ahead : Ahead earlier later moreRecords moreVision moreRejected moreDuplicates)
    (datagrams : List Datagram) :
    Ahead (datagrams.foldl (step pb settings) earlier) (datagrams.foldl (step pb settings) later)
      moreRecords moreVision moreRejected moreDuplicates := by
  induction datagrams generalizing earlier later with
  | nil =>
      exact ahead
  | cons datagram rest inductionHypothesis =>
      exact inductionHypothesis (ahead_step pb settings ahead datagram)

end Counts

/-! ## Streams only grow -/

/-- `later` extends `earlier`: every stream keeps its place and its port, and its last
counter, once it has one, does not go down. -/
def Grown (earlier later : List CommandStream) : Prop :=
  ∀ (index : Nat) (stream : CommandStream), earlier[index]? = some stream →
    ∃ after, later[index]? = some after ∧ after.port = stream.port ∧
      ∀ last, stream.lastCounter = some last →
        ∃ newer, after.lastCounter = some newer ∧ last ≤ newer

theorem grown_refl (streams : List CommandStream) : Grown streams streams :=
  fun _ stream found => ⟨stream, found, rfl, fun last kept => ⟨last, kept, Int.le_refl last⟩⟩

theorem Grown.trans {first second third : List CommandStream} (early : Grown first second)
    (late : Grown second third) : Grown first third := by
  intro index stream found
  obtain ⟨middle, middleFound, middlePort, middleLast⟩ := early index stream found
  obtain ⟨after, afterFound, afterPort, afterLast⟩ := late index middle middleFound
  refine ⟨after, afterFound, afterPort.trans middlePort, fun last kept => ?_⟩
  obtain ⟨newer, newerKept, rises⟩ := middleLast last kept
  obtain ⟨newest, newestKept, risesAgain⟩ := afterLast newer newerKept
  exact ⟨newest, newestKept, Int.le_trans rises risesAgain⟩

theorem lastCounter_append (stream : CommandStream) (command : Command) :
    ({ stream with commands := stream.commands ++ [command] } : CommandStream).lastCounter =
      some command.counter := by
  simp [CommandStream.lastCounter]

theorem grown_sourceIndex (state : Ingest) (port : Int) :
    Grown state.streams (state.sourceIndex port).1.streams := by
  rw [streams_sourceIndex]
  split
  · exact grown_refl _
  · intro index stream found
    have inside : index < state.streams.length := (List.getElem?_eq_some_iff.1 found).1
    rw [List.getElem?_append_left inside]
    exact grown_refl _ index stream found

theorem grown_keep (state : Ingest) (index : Nat) (command : Command) :
    Grown state.streams (state.keep index command).streams := by
  intro position stream found
  rw [keep_eq_ite]
  split
  · rename_i above
    simp only [List.getElem?_modify, found, Option.map_eq_map, Option.map_some]
    split
    · rename_i same
      subst same
      refine ⟨_, rfl, rfl, fun last kept => ?_⟩
      rw [List.getD_eq_getElem?_getD, found, Option.getD_some, kept] at above
      simp only [Option.all_some, decide_eq_true_eq] at above
      exact ⟨command.counter, lastCounter_append stream command, Int.le_of_lt above⟩
    · exact grown_refl [stream] 0 stream rfl
  · exact grown_refl _ position stream found

theorem lastCounter_keep_self {state : Ingest} {index : Nat} {stream : CommandStream}
    (found : state.streams[index]? = some stream) (command : Command) :
    ∃ after last, (state.keep index command).streams[index]? = some after ∧
      after.lastCounter = some last ∧ command.counter ≤ last := by
  rw [keep_eq_ite]
  split
  · simp only [List.getElem?_modify, found, Option.map_eq_map, Option.map_some, if_pos]
    exact ⟨_, command.counter, rfl, lastCounter_append stream command, Int.le_refl _⟩
  · rename_i repeated
    rw [List.getD_eq_getElem?_getD, found, Option.getD_some] at repeated
    cases kept : stream.lastCounter with
    | none =>
        rw [kept] at repeated
        cases repeated rfl
    | some last =>
        rw [kept] at repeated
        simp only [Option.all_some, decide_eq_true_eq] at repeated
        exact ⟨stream, last, found, kept, Int.not_lt.1 repeated⟩

/-- Every step only grows the streams. -/
theorem grown_step (settings : Settings) (state : Ingest) (datagram : Datagram) :
    Grown state.streams (step pb settings state datagram).streams := by
  rw [streams_step]
  split
  · have opened := grown_sourceIndex state datagram.port
    split
    · exact opened.trans (grown_keep _ _ _)
    · exact opened
  · exact grown_refl _

theorem findIdx?_of_grown {earlier later : List CommandStream} (grown : Grown earlier later)
    {port : Int} {index : Nat}
    (found : earlier.findIdx? (fun stream => stream.port = port) = some index) :
    later.findIdx? (fun stream => stream.port = port) = some index := by
  obtain ⟨inside, isPort, notBefore⟩ := List.findIdx?_eq_some_iff_getElem.1 found
  obtain ⟨after, afterFound, afterPort, _⟩ := grown index _ (List.getElem?_eq_getElem inside)
  obtain ⟨laterInside, afterIs⟩ := List.getElem?_eq_some_iff.1 afterFound
  refine List.findIdx?_eq_some_iff_getElem.2 ⟨laterInside, ?_, fun position below => ?_⟩
  · rw [afterIs, afterPort]
    exact isPort
  · obtain ⟨other, otherFound, otherPort, _⟩ :=
      grown position _ (List.getElem?_eq_getElem (Nat.lt_trans below inside))
    obtain ⟨_, otherIs⟩ := List.getElem?_eq_some_iff.1 otherFound
    rw [otherIs, otherPort]
    exact notBefore position below

/-! ## Absorbed datagrams -/

/-- A state that absorbs referee traffic `datagram`: its port has a stream, and a command the
payload decodes to at that stream's index is no newer than the stream's last command. -/
def Absorbs (pb : Protobuf) (state : Ingest) (datagram : Datagram) : Prop :=
  ∃ index stream, state.streams.findIdx? (fun stream => stream.port = datagram.port) = some index ∧
    state.streams[index]? = some stream ∧
    ∀ command, Command.decode pb datagram.payload index = .ok command →
      ∃ last, stream.lastCounter = some last ∧ command.counter ≤ last

theorem absorbs_of_grown {state next : Ingest} {datagram : Datagram}
    (absorbs : Absorbs pb state datagram) (grown : Grown state.streams next.streams) :
    Absorbs pb next datagram := by
  obtain ⟨index, stream, found, streamAt, heard⟩ := absorbs
  obtain ⟨after, afterAt, _, afterLast⟩ := grown index stream streamAt
  refine ⟨index, after, findIdx?_of_grown grown found, afterAt, fun command decoded => ?_⟩
  obtain ⟨last, kept, below⟩ := heard command decoded
  obtain ⟨newer, newerKept, rises⟩ := afterLast last kept
  exact ⟨newer, newerKept, Int.le_trans below rises⟩

section Absorbing

variable {settings : Settings}

theorem absorbs_step_self (state : Ingest) {datagram : Datagram}
    (referee : isReferee settings datagram = true) :
    Absorbs pb (step pb settings state datagram) datagram := by
  have streams := streams_step pb settings state datagram
  rw [if_pos referee] at streams
  obtain ⟨stream, streamAt, _⟩ := port_sourceIndex state datagram.port
  have found := findIdx?_sourceIndex state datagram.port
  cases decoded : Command.decode pb datagram.payload (state.sourceIndex datagram.port).2 with
  | error problem =>
      rw [decoded] at streams
      refine ⟨_, stream, by rw [streams]; exact found, by rw [streams]; exact streamAt,
        fun command again => ?_⟩
      rw [decoded] at again
      cases again
  | ok command =>
      rw [decoded] at streams
      obtain ⟨after, last, afterAt, afterLast, below⟩ :=
        lastCounter_keep_self streamAt command
      refine ⟨_, after, ?_, by rw [streams]; exact afterAt, fun other again => ?_⟩
      · rw [streams]
        exact findIdx?_of_grown (grown_keep _ _ _) found
      · rw [decoded] at again
        cases again
        exact ⟨last, afterLast, below⟩

/-- Once absorbed, a datagram stays absorbed over any datagrams. -/
theorem absorbs_foldl {state : Ingest} {datagram : Datagram} (absorbs : Absorbs pb state datagram)
    (datagrams : List Datagram) : Absorbs pb (datagrams.foldl (step pb settings) state) datagram := by
  induction datagrams generalizing state with
  | nil =>
      exact absorbs
  | cons other rest inductionHypothesis =>
      exact inductionHypothesis (absorbs_of_grown absorbs (grown_step settings state other))

theorem sourceIndex_of_found (state : Ingest) {port : Int} {index : Nat}
    (found : state.streams.findIdx? (fun stream => stream.port = port) = some index) :
    state.sourceIndex port = (state, index) := by
  unfold sourceIndex
  rw [found]

/-- A copy of a datagram changes only counts, when the state absorbs it or it is not referee
traffic: one more record, and one more vision packet, rejection or duplicate by what it is. -/
theorem ahead_step_copy {state : Ingest} {datagram : Datagram}
    (absorbed : isReferee settings datagram = true → Absorbs pb state datagram) :
    Ahead state (step pb settings state datagram) 1
      (if isVision settings datagram && (validateVision pb datagram.payload).isOk then 1 else 0)
      (if (isVision settings datagram && !(validateVision pb datagram.payload).isOk) ||
          (isReferee settings datagram && !(Command.decode pb datagram.payload 0).isOk) then 1 else 0)
      (if isReferee settings datagram && (Command.decode pb datagram.payload 0).isOk then 1 else 0) := by
  unfold step
  by_cases vision : datagram.address = .text settings.visionGroup ∧
      datagram.port = settings.visionPort
  · -- vision traffic is only counted
    have visionTraffic : isVision settings datagram = true := by simp [isVision, vision]
    have notReferee : isReferee settings datagram = false := by simp [isReferee, visionTraffic]
    rw [if_pos vision]
    cases validateVision pb datagram.payload with
    | ok =>
        exact ⟨rfl, rfl, by simp [visionTraffic], by simp [visionTraffic, notReferee],
          by simp [notReferee]⟩
    | error problem =>
        exact ⟨rfl, rfl, by simp [visionTraffic], by simp [visionTraffic, notReferee],
          by simp [notReferee]⟩
  have notVision : isVision settings datagram = false := by simp [isVision, vision]
  rw [if_neg vision]
  by_cases foreign : datagram.address ≠ .text settings.refereeGroup ∧
      datagram.port ≠ settings.refboxPort
  · -- other traffic is only counted as a record
    have notReferee : isReferee settings datagram = false := by
      simp only [isReferee, Bool.and_eq_false_iff, Bool.not_eq_false', decide_eq_false_iff_not,
        not_or]
      exact .inr foreign
    rw [if_pos foreign]
    exact ⟨rfl, rfl, by simp [notVision], by simp [notVision, notReferee], by simp [notReferee]⟩
  have referee : isReferee settings datagram = true := by
    simp only [isReferee, notVision, Bool.not_false, Bool.true_and, decide_eq_true_eq]
    tauto
  obtain ⟨index, stream, found, streamAt, heard⟩ := absorbed referee
  rw [if_neg foreign]
  dsimp only
  rw [sourceIndex_of_found { state with records := state.records + 1 } found]
  dsimp only
  rw [Command.decode_at pb datagram.payload index 0]
  cases decoded : Command.decode pb datagram.payload 0 with
  | error problem =>
      dsimp only [Except.map]
      exact ⟨rfl, rfl, by simp [notVision], by simp [notVision, referee], by simp [referee]⟩
  | ok command =>
      have atIndex : Command.decode pb datagram.payload index = .ok { command with source := index } := by
        rw [Command.decode_at pb datagram.payload index 0, decoded]
        rfl
      obtain ⟨last, kept, notNewer⟩ := heard _ atIndex
      have repeated : ((state.streams.getD index default).lastCounter.all
          fun last => last < command.counter) = false := by
        rw [List.getD_eq_getElem?_getD, streamAt, Option.getD_some, kept]
        simp only [Option.all_some, decide_eq_false_iff_not, Int.not_lt]
        exact notNewer
      dsimp only [Except.map]
      rw [keep_eq_ite]
      simp only [repeated]
      exact ⟨rfl, rfl, by simp [notVision], by simp [notVision, referee], by simp [referee]⟩

end Absorbing

/-- A datagram delivered again anywhere after its first delivery changes no stream, and so no
event: the ingest counts one more record and, by what the datagram is, one more duplicate (a
referee command), rejection (a vision or referee payload that does not decode) or vision
packet (a well-formed one). A datagram that is neither vision nor referee traffic adds
nothing else. -/
theorem run_redelivered_changes_only_counts (pb : Protobuf) (settings : Settings)
    (before between after : List Datagram) (datagram : Datagram) :
    let once := run pb settings (before ++ datagram :: between ++ after)
    let twice := run pb settings (before ++ datagram :: between ++ datagram :: after)
    let vision := isVision settings datagram
    let referee := isReferee settings datagram
    let validVision := (validateVision pb datagram.payload).isOk
    let decodes := (Command.decode pb datagram.payload 0).isOk
    twice.streams = once.streams ∧ twice.events = once.events ∧
      twice.records = once.records + 1 ∧
      twice.duplicates = once.duplicates + (if referee && decodes then 1 else 0) ∧
      twice.rejected = once.rejected +
        (if (vision && !validVision) || (referee && !decodes) then 1 else 0) ∧
      twice.visionRecords = once.visionRecords + (if vision && validVision then 1 else 0) := by
  intro once twice vision referee validVision decodes
  -- the state in which the copy arrives has absorbed the first delivery
  have absorbed : isReferee settings datagram = true →
      Absorbs pb (run pb settings (before ++ datagram :: between)) datagram := by
    intro refereeTraffic
    have first : Absorbs pb (run pb settings (before ++ [datagram])) datagram := by
      rw [run_append]
      exact absorbs_step_self _ refereeTraffic
    have middle : run pb settings (before ++ datagram :: between) =
        between.foldl (step pb settings) (run pb settings (before ++ [datagram])) := by
      rw [← run_append, List.append_assoc, List.singleton_append]
    rw [middle]
    exact absorbs_foldl first between
  have copied := ahead_foldl pb settings (ahead_step_copy absorbed) after
  have onceRun : once = after.foldl (step pb settings) (run pb settings (before ++ datagram :: between)) :=
    run_append _ _
  have twiceRun : twice = after.foldl (step pb settings)
      (step pb settings (run pb settings (before ++ datagram :: between)) datagram) :=
    run_append _ _
  rw [onceRun, twiceRun]
  exact ⟨copied.streams, by rw [events, events, copied.streams], copied.records, copied.duplicates,
    copied.rejected, copied.visionRecords⟩

end Ingest

end RefereeGrading
