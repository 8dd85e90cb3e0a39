import Mathlib.Algebra.BigOperators.Group.List.Basic
import Mathlib.Data.List.Nodup
import RefereeGrading.Proofs.Outcome
import RefereeGrading.Proofs.Redelivery

/-!
# Interleaved captures

All listeners write to one log, so the order in which the records of different ports reach it
is arbitrary. Ingesting keeps in each stream what its port's referee traffic alone leaves
(`Streamed`), and the counts are counts of kinds of datagrams (`Counted`). A run with no sheets
grades each source by its port and events alone, so two captures that keep each port's traffic
in order give the same report, up to the order of the sources.
-/

namespace RefereeGrading

/-! ## Commands up to their source -/

/-- The command as decoded at another source. -/
def Command.withSource (source : Int) (command : Command) : Command :=
  { command with source }

@[simp]
theorem Command.withSource_withSource (first second : Int) (command : Command) :
    (command.withSource first).withSource second = command.withSource second :=
  rfl

theorem Command.withSource_of_source {command : Command} {source : Int}
    (same : command.source = source) : command.withSource source = command := by
  cases command
  cases same
  rfl

theorem Command.decode_zero_of_ok {pb : Protobuf} {payload : List UInt8} {index : Int} {command : Command}
    (decoded : Command.decode pb payload index = .ok command) :
    Command.decode pb payload 0 = .ok (command.withSource 0) := by
  rw [Command.decode_at pb payload 0 index, decoded]
  rfl

theorem Command.decode_zero_of_error {pb : Protobuf} {payload : List UInt8} {index : Int} {problem : CodecError}
    (failed : Command.decode pb payload index = .error problem) :
    Command.decode pb payload 0 = .error problem := by
  rw [Command.decode_at pb payload 0 index, failed]
  rfl

theorem Event.extractFrom_withSource (stoppedAt source : Int) (commands : List Command) :
    Event.extractFrom stoppedAt (commands.map (Command.withSource source)) =
      Event.extractFrom stoppedAt commands := by
  induction commands generalizing stoppedAt with
  | nil =>
      rfl
  | cons command rest inductionHypothesis =>
      simp [Event.extractFrom, Command.withSource, inductionHypothesis]

/-- What grading reads of a stream: its port, the number of its commands, and its events. -/
def CommandStream.observed (stream : CommandStream) : Int × Nat × List Event :=
  (stream.port, stream.commands.length, Event.extract stream.commands)

namespace Ingest

/-! ## What one port's traffic leaves -/

section PortStreams

variable (pb : Protobuf) (settings : Settings)

/-- Referee traffic of one port. -/
def isRefereeOn (port : Int) (datagram : Datagram) : Bool :=
  isReferee settings datagram && decide (datagram.port = port)

/-- The commands of a port's stream, at source 0, after one more datagram of its referee
traffic: the command the payload decodes to is kept when its counter is above the last one
kept. -/
def keepNext (kept : List Command) (datagram : Datagram) : List Command :=
  match Command.decode pb datagram.payload 0 with
  | .ok command =>
    if (kept.getLast?.map (·.counter)).all (· < command.counter) then kept ++ [command] else kept
  | .error _ => kept

/-- The commands that a port's referee traffic leaves in its stream, at source 0. -/
def portCommands (traffic : List Datagram) : List Command :=
  traffic.foldl (keepNext pb) []

variable {pb}

theorem portCommands_append (traffic : List Datagram) (datagram : Datagram) :
    portCommands pb (traffic ++ [datagram]) = keepNext pb (portCommands pb traffic) datagram := by
  rw [portCommands, List.foldl_append]
  rfl

theorem keepNext_of_decode {kept : List Command} {datagram : Datagram} {index : Int}
    {command : Command} (decoded : Command.decode pb datagram.payload index = .ok command) :
    keepNext pb kept datagram =
      if (kept.getLast?.map (·.counter)).all (· < command.counter) then
        kept ++ [command.withSource 0]
      else kept := by
  rw [keepNext, Command.decode_zero_of_ok decoded]
  rfl

theorem keepNext_of_error {kept : List Command} {datagram : Datagram} {index : Int}
    {problem : CodecError} (failed : Command.decode pb datagram.payload index = .error problem) :
    keepNext pb kept datagram = kept := by
  rw [keepNext, Command.decode_zero_of_error failed]

theorem filter_isRefereeOn_append (heard : List Datagram) (datagram : Datagram) (port : Int) :
    (heard ++ [datagram]).filter (isRefereeOn settings port) =
      if isReferee settings datagram = true ∧ datagram.port = port then
        heard.filter (isRefereeOn settings port) ++ [datagram]
      else heard.filter (isRefereeOn settings port) := by
  rw [List.filter_append]
  by_cases joins : isReferee settings datagram = true ∧ datagram.port = port
  · rw [if_pos joins]
    simp [isRefereeOn, joins.1, joins.2]
  · rw [if_neg joins]
    have apart : isRefereeOn settings port datagram = false := by
      simpa [isRefereeOn] using joins
    simp [apart]

variable (pb) in
/-- Every stream holds what the referee traffic heard on its port leaves, at the stream's
index. -/
def Streamed (heard : List Datagram) (streams : List CommandStream) : Prop :=
  ∀ (index : Nat) (stream : CommandStream), streams[index]? = some stream →
    stream.commands =
      (portCommands pb (heard.filter (isRefereeOn settings stream.port))).map
        (Command.withSource index)

variable {settings}

theorem start_streamed : Streamed pb settings [] (start settings).streams := by
  intro index stream found
  simp only [start, List.getElem?_singleton] at found
  split at found
  · cases found
    rfl
  · cases found

theorem Discovered.mem_ports {heard : List Datagram} {state : Ingest}
    (discovered : Discovered pb settings heard state) {datagram : Datagram}
    (member : datagram ∈ heard) (referee : isReferee settings datagram = true) :
    datagram.port ∈ state.ports := by
  rw [discovered.ports, List.mem_eraseDups]
  exact List.mem_cons_of_mem _ (List.mem_map_of_mem (List.mem_filter.2 ⟨member, referee⟩))

theorem streamed_sourceIndex {heard : List Datagram} {state : Ingest}
    (discovered : Discovered pb settings heard state) (streamed : Streamed pb settings heard state.streams)
    (port : Int) : Streamed pb settings heard (state.sourceIndex port).1.streams := by
  intro index stream found
  rw [streams_sourceIndex] at found
  split at found
  · exact streamed index stream found
  · rename_i unknown
    by_cases inside : index < state.streams.length
    · rw [List.getElem?_append_left inside] at found
      exact streamed index stream found
    · rw [List.getElem?_append_right (Nat.le_of_not_lt inside)] at found
      obtain rfl := List.mem_singleton.1 (List.mem_of_getElem? found)
      have unheard : heard.filter (isRefereeOn settings port) = [] := by
        apply List.filter_eq_nil_iff.2
        intro datagram member on
        simp only [isRefereeOn, Bool.and_eq_true, decide_eq_true_eq] at on
        exact unknown (on.2 ▸ discovered.mem_ports member on.1)
      rw [unheard]
      rfl

theorem portCommands_filter_append {heard : List Datagram} {datagram : Datagram} {port : Int}
    (unkept : (isReferee settings datagram = true ∧ datagram.port = port) →
      ∃ (index : Int) (problem : CodecError), Command.decode pb datagram.payload index = .error problem) :
    portCommands pb ((heard ++ [datagram]).filter (isRefereeOn settings port)) =
      portCommands pb (heard.filter (isRefereeOn settings port)) := by
  rw [filter_isRefereeOn_append]
  split
  · rename_i joins
    obtain ⟨index, problem, failed⟩ := unkept joins
    rw [portCommands_append, keepNext_of_error failed]
  · rfl

theorem getElem?_keep_of_ne (state : Ingest) {index position : Nat} (command : Command)
    (apart : position ≠ index) : (state.keep index command).streams[position]? = state.streams[position]? := by
  rw [keep_eq_ite]
  split
  · simp [Ne.symm apart]
  · rfl

theorem getElem?_keep_self {state : Ingest} {index : Nat} {stream : CommandStream}
    (found : state.streams[index]? = some stream) (command : Command) :
    (state.keep index command).streams[index]? =
      some (if stream.lastCounter.all (· < command.counter) then
        { stream with commands := stream.commands ++ [command] } else stream) := by
  have held : state.streams.getD index default = stream := by
    rw [List.getD_eq_getElem?_getD, found]
    rfl
  rw [keep_eq_ite, held]
  split
  · simp [found]
  · simp [found]

theorem port_grown {kept : Prop} [Decidable kept] (stream : CommandStream) (command : Command) :
    (if kept then { stream with commands := stream.commands ++ [command] } else stream).port =
      stream.port := by
  split <;> rfl

theorem eq_of_port_eq {streams : List CommandStream} (distinct : (streams.map (·.port)).Nodup)
    {first second : Nat} {one other : CommandStream} (oneFound : streams[first]? = some one)
    (otherFound : streams[second]? = some other) (samePort : one.port = other.port) :
    first = second := by
  have firstPort : (streams.map (·.port))[first]? = some one.port := by simp [oneFound]
  have secondPort : (streams.map (·.port))[second]? = some other.port := by simp [otherFound]
  have firstInside : first < (streams.map (·.port)).length := by
    simpa using (List.getElem?_eq_some_iff.1 oneFound).1
  have secondInside : second < (streams.map (·.port)).length := by
    simpa using (List.getElem?_eq_some_iff.1 otherFound).1
  have apart := List.nodup_iff_getElem?_ne_getElem?.1 distinct
  rcases Nat.lt_trichotomy first second with earlier | same | later
  · exact absurd (by rw [firstPort, secondPort, samePort]) (apart first second earlier secondInside)
  · exact same
  · exact absurd (by rw [firstPort, secondPort, samePort]) (apart second first later firstInside)

theorem streamed_keep_self {heard : List Datagram} {streams : List CommandStream}
    (streamed : Streamed pb settings heard streams) {index : Nat} {stream : CommandStream}
    (found : streams[index]? = some stream) {datagram : Datagram}
    (referee : isReferee settings datagram = true) (onPort : datagram.port = stream.port)
    {command : Command} (decoded : Command.decode pb datagram.payload index = .ok command) :
    (if stream.lastCounter.all (· < command.counter) then
        { stream with commands := stream.commands ++ [command] } else stream).commands =
      (portCommands pb ((heard ++ [datagram]).filter (isRefereeOn settings stream.port))).map
        (Command.withSource index) := by
  have held := streamed index stream found
  have lastKept : stream.lastCounter =
      (portCommands pb (heard.filter (isRefereeOn settings stream.port))).getLast?.map (·.counter) := by
    rw [CommandStream.lastCounter, held, List.getLast?_map, Option.map_map]
    rfl
  have sourced : (command.withSource 0).withSource index = command := by
    rw [Command.withSource_withSource]
    exact Command.withSource_of_source (Command.source_of_decode decoded)
  rw [filter_isRefereeOn_append, if_pos (And.intro referee onPort), portCommands_append,
    keepNext_of_decode decoded, ← lastKept]
  split
  · simp [held, sourced]
  · exact held

/-- One datagram keeps every stream holding what its port's referee traffic leaves. -/
theorem step_streamed {heard : List Datagram} {state : Ingest}
    (discovered : Discovered pb settings heard state) (streamed : Streamed pb settings heard state.streams)
    (datagram : Datagram) :
    Streamed pb settings (heard ++ [datagram]) (step pb settings state datagram).streams := by
  have streams := streams_step pb settings state datagram
  by_cases referee : isReferee settings datagram = true
  · rw [if_pos referee] at streams
    have opened := streamed_sourceIndex discovered streamed datagram.port
    cases decoded : Command.decode pb datagram.payload (state.sourceIndex datagram.port).2 with
    | error problem =>
        rw [decoded] at streams
        intro index stream found
        rw [streams] at found
        rw [portCommands_filter_append fun _ => ⟨_, problem, decoded⟩]
        exact opened index stream found
    | ok command =>
        rw [decoded] at streams
        dsimp only at streams
        obtain ⟨own, ownFound, ownPort⟩ := port_sourceIndex state datagram.port
        -- after the step the ports are still all different, so only the datagram's own stream
        -- is on its port
        have distinct : ((state.sourceIndex datagram.port).1.keep
            (state.sourceIndex datagram.port).2 command).streams.map (·.port) |>.Nodup := by
          rw [← streams, ← ports, (step_discovered discovered datagram).ports]
          exact nodup_eraseDups _
        intro index stream found
        rw [streams] at found
        by_cases same : index = (state.sourceIndex datagram.port).2
        · subst same
          rw [getElem?_keep_self ownFound, Option.some.injEq] at found
          have portKept : stream.port = own.port := by
            rw [← found, port_grown]
          rw [portKept, ← found]
          exact streamed_keep_self opened ownFound referee ownPort.symm decoded
        · have other : (state.sourceIndex datagram.port).1.streams[index]? = some stream := by
            rwa [getElem?_keep_of_ne _ _ same] at found
          have ownKept := getElem?_keep_self ownFound command
          have offPort : datagram.port ≠ stream.port := by
            intro onPort
            apply same
            refine eq_of_port_eq distinct found ownKept ?_
            rw [port_grown, ← onPort, ownPort]
          rw [portCommands_filter_append fun joins => absurd joins.2 offPort]
          exact opened index stream other
  · -- other traffic changes no stream, and joins no port's referee traffic
    rw [if_neg referee] at streams
    intro index stream found
    rw [streams] at found
    rw [portCommands_filter_append fun joins => absurd joins.1 referee]
    exact streamed index stream found

/-- Every ingest holds in each stream what its port's referee traffic alone leaves. -/
theorem run_streamed (datagrams : List Datagram) :
    Streamed pb settings datagrams (run pb settings datagrams).streams := by
  induction datagrams using List.reverseRecOn with
  | nil =>
      exact start_streamed
  | append_singleton datagrams datagram inductionHypothesis =>
      rw [run_append]
      exact step_streamed (run_discovered datagrams) inductionHypothesis datagram

end PortStreams

/-! ## The counts -/

section Counts

variable (pb : Protobuf) (settings : Settings)

/-- Vision traffic whose payload passes the check. -/
def passesVision (datagram : Datagram) : Bool :=
  isVision settings datagram && (validateVision pb datagram.payload).isOk

/-- Datagrams the ingest rejects: vision traffic that fails its check, and referee traffic that
does not decode. -/
def isRejected (datagram : Datagram) : Bool :=
  isVision settings datagram && !(validateVision pb datagram.payload).isOk ||
    isReferee settings datagram && !(Command.decode pb datagram.payload 0).isOk

/-- Referee traffic that decodes to a command. -/
def decodesCommand (datagram : Datagram) : Bool :=
  isReferee settings datagram && (Command.decode pb datagram.payload 0).isOk

/-- The number of commands the streams keep. -/
def keptCount (streams : List CommandStream) : Nat :=
  (streams.map (·.commands.length)).sum

/-- The counts of an ingest of the datagrams `heard`: a record for each, the vision traffic
that passes, the datagrams rejected, and the referee traffic that decodes, each command kept or
counted a duplicate. -/
structure Counted (heard : List Datagram) (state : Ingest) : Prop where
  records : state.records = heard.length
  visionRecords : state.visionRecords = heard.countP (passesVision pb settings)
  rejected : state.rejected = heard.countP (isRejected pb settings)
  duplicates : state.duplicates + keptCount state.streams = heard.countP (decodesCommand pb settings)

theorem sourceIndex_fst (state : Ingest) (port : Int) :
    (state.sourceIndex port).1 = { state with streams := (state.sourceIndex port).1.streams } := by
  unfold sourceIndex
  split <;> rfl

theorem keptCount_sourceIndex (state : Ingest) (port : Int) :
    keptCount (state.sourceIndex port).1.streams = keptCount state.streams := by
  rw [streams_sourceIndex]
  split
  · rfl
  · simp [keptCount]

theorem keptCount_modify {streams : List CommandStream} {index : Nat} {stream : CommandStream}
    (found : streams[index]? = some stream) (command : Command) :
    keptCount (streams.modify index fun s => { s with commands := s.commands ++ [command] }) =
      keptCount streams + 1 := by
  induction streams generalizing index with
  | nil =>
      cases found
  | cons first rest inductionHypothesis =>
      cases index with
      | zero =>
          simp [keptCount, List.modify_zero_cons]
          omega
      | succ index =>
          have later := inductionHypothesis (show rest[index]? = some stream by simpa using found)
          simp only [keptCount, List.modify_succ_cons, List.map_cons, List.sum_cons] at later ⊢
          omega

theorem keep_counts {state : Ingest} {index : Nat} {stream : CommandStream}
    (found : state.streams[index]? = some stream) (command : Command) :
    (state.keep index command).records = state.records ∧
      (state.keep index command).visionRecords = state.visionRecords ∧
      (state.keep index command).rejected = state.rejected ∧
      (state.keep index command).duplicates + keptCount (state.keep index command).streams =
        state.duplicates + keptCount state.streams + 1 := by
  rw [keep_eq_ite]
  split
  · refine ⟨rfl, rfl, rfl, ?_⟩
    simp only [keptCount_modify found]
    omega
  · refine ⟨rfl, rfl, rfl, ?_⟩
    simp only
    omega

/-- What one datagram adds to the counts: a record, and one more vision record, rejection, or
command kept or counted a duplicate, according to what it is. -/
theorem counts_step (state : Ingest) (datagram : Datagram) :
    (step pb settings state datagram).records = state.records + 1 ∧
      (step pb settings state datagram).visionRecords =
        state.visionRecords + (if passesVision pb settings datagram then 1 else 0) ∧
      (step pb settings state datagram).rejected =
        state.rejected + (if isRejected pb settings datagram then 1 else 0) ∧
      (step pb settings state datagram).duplicates + keptCount (step pb settings state datagram).streams =
        state.duplicates + keptCount state.streams +
          (if decodesCommand pb settings datagram then 1 else 0) := by
  unfold step
  dsimp only
  by_cases vision : datagram.address = .text settings.visionGroup ∧
      datagram.port = settings.visionPort
  · -- vision traffic is checked and counted, and is never referee traffic
    have isVisionTrue : isVision settings datagram = true := by simp [isVision, vision]
    rw [if_pos vision]
    cases validated : validateVision pb datagram.payload with
    | ok checked =>
        simp [passesVision, isRejected, decodesCommand, isReferee, isVisionTrue, validated]
    | error problem =>
        simp [passesVision, isRejected, decodesCommand, isReferee, isVisionTrue, validated]
  · have isVisionFalse : isVision settings datagram = false := by simp [isVision, vision]
    rw [if_neg vision]
    by_cases foreign : datagram.address ≠ .text settings.refereeGroup ∧
        datagram.port ≠ settings.refboxPort
    · -- traffic that is neither is only counted as a record
      have notReferee : isReferee settings datagram = false := by
        simp only [isReferee, Bool.and_eq_false_iff, Bool.not_eq_false', decide_eq_false_iff_not,
          not_or]
        exact .inr foreign
      rw [if_pos foreign]
      simp [passesVision, isRejected, decodesCommand, notReferee, isVisionFalse]
    · have referee : isReferee settings datagram = true := by
        simp only [isReferee, isVisionFalse, Bool.not_false, Bool.true_and, decide_eq_true_eq]
        tauto
      rw [if_neg foreign]
      have counted : ({ state with records := state.records + 1 } : Ingest).streams =
          state.streams := rfl
      obtain ⟨sameStreams, sameIndex⟩ := sourceIndex_congr counted datagram.port
      obtain ⟨own, ownFound, -⟩ := port_sourceIndex state datagram.port
      rw [sameIndex]
      cases decoded : Command.decode pb datagram.payload (state.sourceIndex datagram.port).2 with
      | error problem =>
          rw [sourceIndex_fst]
          simp [passesVision, isRejected, decodesCommand, referee, isVisionFalse,
            Command.decode_zero_of_error decoded, sameStreams, keptCount_sourceIndex]
      | ok command =>
          have ownFoundCounted : (({ state with records := state.records + 1 } : Ingest).sourceIndex
              datagram.port).1.streams[(state.sourceIndex datagram.port).2]? = some own := by
            rw [sameStreams]
            exact ownFound
          obtain ⟨records, visionRecords, rejected, duplicates⟩ := keep_counts ownFoundCounted command
          rw [records, visionRecords, rejected, duplicates, sourceIndex_fst]
          simp [passesVision, isRejected, decodesCommand, referee, isVisionFalse,
            Command.decode_zero_of_ok decoded, sameStreams, keptCount_sourceIndex]

variable {pb settings}

theorem start_counted : Counted pb settings [] (start settings) :=
  ⟨rfl, rfl, rfl, by simp [start, keptCount]⟩

theorem step_counted {heard : List Datagram} {state : Ingest} (counted : Counted pb settings heard state)
    (datagram : Datagram) : Counted pb settings (heard ++ [datagram]) (step pb settings state datagram) := by
  obtain ⟨records, visionRecords, rejected, duplicates⟩ := counts_step pb settings state datagram
  refine ⟨?_, ?_, ?_, ?_⟩
  · rw [records, counted.records, List.length_append, List.length_singleton]
  · rw [visionRecords, counted.visionRecords, List.countP_append, List.countP_singleton]
  · rw [rejected, counted.rejected, List.countP_append, List.countP_singleton]
  · rw [duplicates, counted.duplicates, List.countP_append, List.countP_singleton]

theorem run_counted (datagrams : List Datagram) : Counted pb settings datagrams (run pb settings datagrams) := by
  induction datagrams using List.reverseRecOn with
  | nil =>
      exact start_counted
  | append_singleton datagrams datagram inductionHypothesis =>
      rw [run_append]
      exact step_counted inductionHypothesis datagram

theorem keptCount_eq_sum {heard : List Datagram} {streams : List CommandStream}
    (streamed : Streamed pb settings heard streams) :
    keptCount streams = ((streams.map (·.port)).map fun port =>
      (portCommands pb (heard.filter (isRefereeOn settings port))).length).sum := by
  rw [keptCount, List.map_map]
  congr 1
  apply List.map_congr_left
  intro stream member
  obtain ⟨index, found⟩ := List.mem_iff_getElem?.1 member
  simp [streamed index stream found]

end Counts

/-- What grading reads of the stream a port's referee traffic leaves. -/
def observedOn (pb : Protobuf) (settings : Settings) (heard : List Datagram) (port : Int) : Int × Nat × List Event :=
  (port, (portCommands pb (heard.filter (isRefereeOn settings port))).length,
    Event.extract (portCommands pb (heard.filter (isRefereeOn settings port))))

theorem observed_eq_observedOn {pb : Protobuf} {settings : Settings} {heard : List Datagram}
    {streams : List CommandStream} (streamed : Streamed pb settings heard streams)
    {stream : CommandStream} (member : stream ∈ streams) :
    stream.observed = observedOn pb settings heard stream.port := by
  obtain ⟨index, found⟩ := List.mem_iff_getElem?.1 member
  rw [CommandStream.observed, observedOn, streamed index stream found, List.length_map, Event.extract,
    Event.extractFrom_withSource]
  rfl

/-! ## Two orders of one capture -/

section Reordered

variable {pb : Protobuf} {settings : Settings} {datagrams reordered : List Datagram}

theorem head?_ports_run (datagrams : List Datagram) :
    (run pb settings datagrams).ports.head? = some settings.refboxPort := by
  rw [(run_discovered datagrams).ports, List.eraseDups_cons]
  rfl

theorem ports_run_perm (perm : datagrams.Perm reordered) :
    (run pb settings datagrams).ports.Perm (run pb settings reordered).ports := by
  have discovered : Discovered pb settings datagrams (run pb settings datagrams) :=
    run_discovered datagrams
  have discoveredAgain : Discovered pb settings reordered (run pb settings reordered) :=
    run_discovered reordered
  have distinct := discovered.ports ▸ nodup_eraseDups _
  have distinctAgain := discoveredAgain.ports ▸ nodup_eraseDups _
  apply (List.perm_ext_iff_of_nodup distinct distinctAgain).2
  intro port
  rw [discovered.ports, discoveredAgain.ports, List.mem_eraseDups, List.mem_eraseDups]
  exact (((perm.filter (isReferee settings)).map (·.port)).cons settings.refboxPort).mem_iff

theorem commands_run_reordered
    (ordered : ∀ port, datagrams.filter (isRefereeOn settings port) =
      reordered.filter (isRefereeOn settings port))
    {index otherIndex : Nat} {stream other : CommandStream}
    (found : (run pb settings datagrams).streams[index]? = some stream)
    (otherFound : (run pb settings reordered).streams[otherIndex]? = some other)
    (samePort : stream.port = other.port) :
    other.commands = stream.commands.map (Command.withSource otherIndex) := by
  rw [run_streamed reordered otherIndex other otherFound, run_streamed datagrams index stream found,
    ← samePort, ordered, List.map_map]
  congr 1

theorem counts_run_reordered (perm : datagrams.Perm reordered)
    (ordered : ∀ port, datagrams.filter (isRefereeOn settings port) =
      reordered.filter (isRefereeOn settings port)) :
    (run pb settings datagrams).records = (run pb settings reordered).records ∧
      (run pb settings datagrams).visionRecords = (run pb settings reordered).visionRecords ∧
      (run pb settings datagrams).rejected = (run pb settings reordered).rejected ∧
      (run pb settings datagrams).duplicates = (run pb settings reordered).duplicates := by
  have counted : Counted pb settings datagrams (run pb settings datagrams) := run_counted datagrams
  have countedAgain : Counted pb settings reordered (run pb settings reordered) := run_counted reordered
  have kept : keptCount (run pb settings datagrams).streams = keptCount (run pb settings reordered).streams := by
    rw [keptCount_eq_sum (run_streamed datagrams), keptCount_eq_sum (run_streamed reordered)]
    simp only [ordered]
    exact ((ports_run_perm perm).map _).sum_eq
  have decoded := countedAgain.duplicates
  rw [← perm.countP_eq, ← counted.duplicates, ← kept] at decoded
  refine ⟨?_, ?_, ?_, by omega⟩
  · rw [counted.records, countedAgain.records, perm.length_eq]
  · rw [counted.visionRecords, countedAgain.visionRecords, perm.countP_eq]
  · rw [counted.rejected, countedAgain.rejected, perm.countP_eq]

theorem head?_observed_run (datagrams : List Datagram) :
    ((run pb settings datagrams).streams.map CommandStream.observed).head? =
      some (observedOn pb settings datagrams settings.refboxPort) := by
  have first : (run pb settings datagrams).ports.head? = some settings.refboxPort :=
    head?_ports_run datagrams
  rw [ports] at first
  cases found : (run pb settings datagrams).streams with
  | nil =>
      rw [found] at first
      cases first
  | cons stream rest =>
      rw [found, List.map_cons, List.head?_cons, Option.some.injEq] at first
      have member : stream ∈ (run pb settings datagrams).streams := by
        rw [found]
        exact List.mem_cons_self
      rw [List.map_cons, List.head?_cons, observed_eq_observedOn (run_streamed datagrams) member,
        first]

/-- Datagrams heard in another order that keeps each port's referee traffic in order give
streams from which grading reads the same, stream for stream up to their order. -/
theorem observed_run_perm (perm : datagrams.Perm reordered)
    (ordered : ∀ port, datagrams.filter (isRefereeOn settings port) =
      reordered.filter (isRefereeOn settings port)) :
    ((run pb settings datagrams).streams.map CommandStream.observed).Perm
      ((run pb settings reordered).streams.map CommandStream.observed) := by
  have onPorts : ∀ heard, (run pb settings heard).streams.map CommandStream.observed =
      (run pb settings heard).ports.map (observedOn pb settings heard) := by
    intro heard
    rw [ports, List.map_map]
    exact List.map_congr_left fun stream member =>
      observed_eq_observedOn (run_streamed heard) member
  have sameOn : observedOn pb settings datagrams = observedOn pb settings reordered := by
    funext port
    simp only [observedOn, ordered]
  rw [onPorts, onPorts, sameOn]
  exact (ports_run_perm perm).map _

end Reordered

end Ingest

/-- What a result reports of its source's grade, apart from the source's index and the name of
its sheet: the port, the number of judgements, whether a sheet was loaded, and the scores. -/
def AutorefResult.grade (result : AutorefResult) : Int × Nat × Bool × Score × List (String × Score) :=
  (result.port, result.evaluations, result.correctionsLoaded, result.score, result.byCommand)

/-- What a report says of a source, apart from its index: its port and the numbers of its
commands and events. -/
def SourceSummary.content (summary : SourceSummary) : Int × Nat × Nat :=
  (summary.port, summary.commands, summary.events)

/-! ## Grading where no sheet exists -/

theorem Sheet.merge_none (path : List Nat) (fresh : List Judgement) :
    Sheet.merge path none fresh =
      .ok { judgements := fresh, loaded := false, written := some (Sheet.render fresh),
            warning := none } :=
  rfl

namespace Grading

theorem except_eq_error_iff_of_map {ε α β : Type} {f : α → β} {outcome : Except ε α}
    {image : Except ε β} (mapped : outcome.map f = image) (problem : ε) :
    outcome = .error problem ↔ image = .error problem := by
  rw [← mapped, Sheet.map_eq_error_iff]

theorem except_map_eq_map_const {ε α β : Type} {f : α → β} {outcome : Except ε α}
    {steps : Except ε Unit} {value : β} (mapped : outcome.map f = steps.map fun _ => value) :
    (∃ problem, outcome = .error problem ∧ steps = .error problem) ∨
      ∃ results, outcome = .ok results ∧ steps = .ok () ∧ f results = value := by
  cases outcome with
  | error problem =>
      cases steps with
      | error other =>
          cases mapped
          exact .inl ⟨problem, rfl, rfl⟩
      | ok done =>
          cases mapped
  | ok results =>
      cases steps with
      | error other =>
          cases mapped
      | ok done =>
          exact .inr ⟨results, rfl, rfl, Except.ok.inj mapped⟩

section Fresh

variable (settings : Settings) (flushTrailing : Bool) (logPath : List Nat) (human : List Event)

/-- Whether the sheet of source `index` can be named: its path forms and opens. -/
def sheetFile (index : Nat) : Except GradingError Unit :=
  match Sheet.pathFor logPath index settings.correctionSuffix Settings.ambient.correctionSuffix with
  | .error problem => .error (.badSheetPath problem)
  | .ok written => (fileNameOf (PathName.ofPoints written).toPoints).map fun _ => ()

/-- Whether the sheets of `count` sources from `index` on can all be named, or why the first one
that cannot be named cannot. -/
def sheetsOpen (index count : Nat) : Except GradingError Unit :=
  (List.range' index count).forM (sheetFile settings logPath)

theorem sheetsOpen_succ (index count : Nat) :
    sheetsOpen settings logPath index (count + 1) =
      sheetFile settings logPath index >>= fun _ => sheetsOpen settings logPath (index + 1) count := by
  rw [sheetsOpen, List.range'_succ]
  rfl

/-- The grade of a source that has no sheet, from its port and its events. -/
def freshGrade (port : Int) (calls : List Event) :
    Option (Int × Nat × Bool × Score × List (String × Score)) := do
  let fresh := freshJudgements settings flushTrailing human calls
  let score ← (Score.ofJudgements fresh).toOption
  let byCommand ← (Score.byCommand fresh).toOption
  return (port, fresh.length, false, score, byCommand)

/-- Grading in a folder that holds no sheet of the sources graded, against fresh judgements that
all score, stops at the first source whose sheet cannot be named, and otherwise grades each
source by its port and its events alone. -/
theorem gradeFrom_without_sheets {index : Nat} {streams : List CommandStream}
    {later : List (List Event)} {folder : Folder}
    (unsheeted : ∀ sheet name, index ≤ sheet → SheetName settings logPath sheet name →
      folder.read? name = none)
    (classified : ∀ calls ∈ later, Classified (freshJudgements settings flushTrailing human calls)) :
    ((@gradeFrom (StateM Folder) _ _ settings flushTrailing logPath human index streams later).run
        folder).1.1.map (fun results => results.map fun result => some result.grade) =
      (sheetsOpen settings logPath index (min streams.length later.length)).map fun _ =>
        (streams.zip later).map fun (stream, calls) =>
          freshGrade settings flushTrailing human stream.port calls := by
  -- induction on the sources, the folder taking each fresh sheet as it is written
  induction streams generalizing index later folder with
  | nil =>
      rw [gradeFrom_run_of_exhausted settings flushTrailing logPath human (.inl rfl)]
      rfl
  | cons stream streams inductionHypothesis =>
      cases later with
      | nil =>
          rw [gradeFrom_run_of_exhausted settings flushTrailing logPath human (.inr rfl)]
          rfl
      | cons calls later =>
          have counted : min (streams.length + 1) (later.length + 1) =
              min streams.length later.length + 1 := by
            omega
          simp only [List.length_cons, counted, sheetsOpen_succ]
          cases path : Sheet.pathFor logPath index settings.correctionSuffix Settings.ambient.correctionSuffix with
          | error problem =>
              have unnamed : sheetFile settings logPath index = .error (.badSheetPath problem) := by
                simp [sheetFile, path]
              simp only [gradeFrom, path, unnamed]
              rfl
          | ok written =>
          cases opened : fileNameOf (PathName.ofPoints written).toPoints with
          | error problem =>
              have unnamed : sheetFile settings logPath index = .error problem := by
                simp [sheetFile, path, opened]
                rfl
              simp only [gradeFrom, path, opened, unnamed]
              rfl
          | ok name =>
          have named : sheetFile settings logPath index = .ok () := by
            simp [sheetFile, path, opened]
            rfl
          have unread : folder.read? name = none :=
            unsheeted index name (Nat.le_refl index) ⟨written, path, opened⟩
          have merging := Sheet.merge_none (PathName.ofPoints written).toPoints
            (freshJudgements settings flushTrailing human calls)
          rw [← unread] at merging
          have freshClassified := classified calls List.mem_cons_self
          obtain ⟨score, scored⟩ := Score.ofJudgements_isOk freshClassified
          obtain ⟨byCommand, sliced⟩ := Score.byCommand_isOk freshClassified
          have graded : freshGrade settings flushTrailing human stream.port calls =
              some (stream.port, (freshJudgements settings flushTrailing human calls).length, false,
                score, byCommand) := by
            simp only [freshGrade, scored, sliced, Except.toOption]
            rfl
          rw [gradeFrom_cons_run settings flushTrailing logPath human path opened merging scored sliced]
          -- the later sources' sheets are filed apart from this one, so they still do not exist
          have rest := @inductionHypothesis (index + 1) later _
            (fun sheet other beyond sheetName =>
              (read?_other_sheet_after_merge path opened sheetName (by omega) folder
                (some (Sheet.render (freshJudgements settings flushTrailing human calls)))).trans
                (unsheeted sheet other (by omega) sheetName))
            (fun later member => classified later (List.mem_cons_of_mem calls member))
          dsimp only at rest ⊢
          rw [named]
          generalize ((@gradeFrom (StateM Folder) _ _ settings flushTrailing logPath human (index + 1)
              streams later).run _).1.1 = outcome at rest ⊢
          generalize sheetsOpen settings logPath (index + 1) (min streams.length later.length) =
            opens at rest ⊢
          rcases except_map_eq_map_const rest with ⟨problem, rfl, rfl⟩ | ⟨results, rfl, rfl, restGraded⟩
          · rfl
          · simp only [Except.map, List.map_cons, restGraded, graded, List.zip_cons_cons]
            rfl

end Fresh

section Runs

variable {pb : Protobuf} {settings : Settings} {flush : Option Bool} {logPath : List Nat} {folder : Folder}

theorem zip_map_self {α β : Type} (items : List α) (f : α → β) :
    items.zip (items.map f) = items.map fun item => (item, f item) := by
  induction items with
  | nil =>
      rfl
  | cons item rest inductionHypothesis =>
      simp [inductionHypothesis]

theorem sources_content (streams : List CommandStream) :
    ((streams.zip (streams.map fun stream => Event.extract stream.commands)).zipIdx.map
        fun ((stream, found), index) =>
          ({ index, port := stream.port, commands := stream.commands.length,
             events := found.length } : SourceSummary)).map SourceSummary.content =
      (streams.map CommandStream.observed).map fun seen => (seen.1, seen.2.1, seen.2.2.length) := by
  rw [zip_map_self, List.zipIdx_map, List.map_map, List.map_map, List.map_map]
  refine (List.map_congr_left (g := fun (entry : CommandStream × Nat) =>
    ((fun seen => (seen.1, seen.2.1, seen.2.2.length)) ∘ CommandStream.observed) entry.1)
      fun entry _ => rfl).trans ?_
  conv_rhs => rw [← List.zipIdx_map_fst 0 streams]
  rw [List.map_map]
  rfl

theorem run_without_sheets {name bytes : List UInt8}
    (opened : fileNameOf (PathName.ofPoints logPath).toPoints = .ok name)
    (found : folder.read? name = some bytes) (framed : (Log.read pb bytes).failure = none)
    (unsheeted : ∀ sheet sheetName, SheetName settings logPath sheet sheetName →
      folder.read? sheetName = none) :
    let ingest := Ingest.run pb settings (Log.read pb bytes).datagrams
    let observed := ingest.streams.map CommandStream.observed
    let human := (observed.headD (0, 0, [])).2.2
    ((@run (StateM Folder) _ _ pb settings flush logPath).run folder).1.result.map
        (fun report => (report.records, report.visionRecords, report.rejectedRecords,
          report.duplicateCommands, report.sources.map SourceSummary.content,
          report.autorefs.map fun result => some result.grade)) =
      if human = [] then .error (.noReferenceEvents (PathName.ofPoints logPath).toPoints)
      else (sheetsOpen settings logPath 1 (observed.length - 1)).map fun _ =>
        (ingest.records, ingest.visionRecords, ingest.rejected, ingest.duplicates,
          observed.map (fun seen => (seen.1, seen.2.1, seen.2.2.length)),
          observed.tail.map fun seen =>
            freshGrade settings (flush.getD settings.flushTrailing) human seen.1 seen.2.2) := by
  intro ingest observed human
  obtain ⟨box, rest, split⟩ : ∃ box rest, ingest.streams = box :: rest := by
    cases streams : ingest.streams with
    | nil =>
        exact absurd (by rw [Ingest.events, streams]; rfl) (Ingest.events_ne_nil pb settings _)
    | cons box rest =>
        exact ⟨box, rest, rfl⟩
  have extracted : ingest.events =
      Event.extract box.commands :: rest.map fun stream => Event.extract stream.commands := by
    rw [Ingest.events, split, List.map_cons]
  have humanIs : human = Event.extract box.commands := by
    simp only [human, observed, split, List.map_cons, List.headD_cons, CommandStream.observed]
  by_cases silent : human = []
  · generalize ranEq : (@run (StateM Folder) _ _ pb settings flush logPath).run folder = ran
    obtain ⟨outcome, final⟩ := ran
    obtain ⟨stopped, -⟩ := run_of_silent opened found framed
      (by rw [extracted, List.headD_cons, ← humanIs]; exact silent) ranEq
    rw [if_pos silent]
    simp only [stopped]
    rfl
  · have heard : (Event.extract box.commands).isEmpty = false := by
      rw [← humanIs]
      simpa using silent
    rw [if_neg silent, run_run_of_heard opened found framed extracted heard]
    dsimp only
    have wellformed := Ingest.events_wellformed (Ingest.run_wellformed pb settings (Log.read pb bytes).datagrams)
    have classified : ∀ calls ∈ rest.map (fun stream => Event.extract stream.commands),
        Classified (freshJudgements settings (flush.getD settings.flushTrailing)
          (Event.extract box.commands) calls) := by
      intro calls member judgement judgementMember _
      have humanOk := (wellformed _ (by rw [extracted]; exact List.mem_cons_self)).2
      have callsOk := (wellformed calls (by rw [extracted]; exact List.mem_cons_of_mem _ member)).2
      exact (freshJudgements_wellformed humanOk callsOk judgement judgementMember).2.1
    have graded := @gradeFrom_without_sheets settings (flush.getD settings.flushTrailing) logPath
      (Event.extract box.commands) 1 rest (rest.map fun stream => Event.extract stream.commands)
      folder (fun sheet sheetName _ named => unsheeted sheet sheetName named) classified
    have counted : min rest.length (rest.map fun stream => Event.extract stream.commands).length =
        observed.length - 1 := by
      simp [observed, split]
    have remaining : (Ingest.run pb settings (Log.read pb bytes).datagrams).streams.tail = rest := by
      rw [show (Ingest.run pb settings (Log.read pb bytes).datagrams).streams = box :: rest from split]
      rfl
    rw [counted] at graded
    rw [remaining]
    generalize ((@gradeFrom (StateM Folder) _ _ settings (flush.getD settings.flushTrailing) logPath
      (Event.extract box.commands) 1 rest (rest.map fun stream => Event.extract stream.commands)).run
        folder).1.1 = outcome at graded ⊢
    generalize sheetsOpen settings logPath 1 (observed.length - 1) = opens at graded ⊢
    rcases except_map_eq_map_const graded with ⟨problem, rfl, rfl⟩ | ⟨results, rfl, rfl, grades⟩
    · rfl
    · -- the report holds the ingest's counts, its sources, and the fresh grades
      have sources := sources_content (Ingest.run pb settings (Log.read pb bytes).datagrams).streams
      have observedTail : observed.tail = rest.map CommandStream.observed := by
        simp [observed, split]
      simp only [Except.map, Ingest.events]
      rw [grades, sources, observedTail, zip_map_self, humanIs]
      simp only [observed, List.map_map]
      rfl

theorem perm_tail_of_head?_eq {α : Type} {items others : List α} (perm : items.Perm others)
    (sameHead : items.head? = others.head?) : items.tail.Perm others.tail := by
  cases items with
  | nil =>
      rw [List.Perm.nil_eq perm]
  | cons item rest =>
      cases others with
      | nil =>
          exact absurd perm.length_eq (by simp)
      | cons other restOthers =>
          obtain rfl : item = other := by simpa using sameHead
          exact perm.cons_inv

/-- Two runs on logs whose ingests have the same counts, and from whose streams grading reads
the same, the referee box's first and the others in any order, in folders that hold no sheet:
they stop for the same reason, or report the same counts, the same sources and the same grades,
up to the order of the sources. -/
theorem run_alike_of_observed {flush : Option Bool} {name bytes bytesAgain : List UInt8}
    {folderAgain : Folder}
    (opened : fileNameOf (PathName.ofPoints logPath).toPoints = .ok name)
    (found : folder.read? name = some bytes) (foundAgain : folderAgain.read? name = some bytesAgain)
    (framed : (Log.read pb bytes).failure = none) (framedAgain : (Log.read pb bytesAgain).failure = none)
    (unsheeted : ∀ sheet sheetName, SheetName settings logPath sheet sheetName →
      folder.read? sheetName = none ∧ folderAgain.read? sheetName = none)
    (counts : let ingest := Ingest.run pb settings (Log.read pb bytes).datagrams
      let ingestAgain := Ingest.run pb settings (Log.read pb bytesAgain).datagrams
      ingest.records = ingestAgain.records ∧ ingest.visionRecords = ingestAgain.visionRecords ∧
        ingest.rejected = ingestAgain.rejected ∧ ingest.duplicates = ingestAgain.duplicates)
    (observedPerm : ((Ingest.run pb settings (Log.read pb bytes).datagrams).streams.map
      CommandStream.observed).Perm
        ((Ingest.run pb settings (Log.read pb bytesAgain).datagrams).streams.map CommandStream.observed))
    (sameHead : ((Ingest.run pb settings (Log.read pb bytes).datagrams).streams.map
      CommandStream.observed).head? =
        ((Ingest.run pb settings (Log.read pb bytesAgain).datagrams).streams.map
          CommandStream.observed).head?) :
    let outcome := ((@run (StateM Folder) _ _ pb settings flush logPath).run folder).1
    let outcomeAgain := ((@run (StateM Folder) _ _ pb settings flush logPath).run folderAgain).1
    (∀ problem, outcome.result = .error problem ↔ outcomeAgain.result = .error problem) ∧
      ∀ report reportAgain, outcome.result = .ok report → outcomeAgain.result = .ok reportAgain →
        report.records = reportAgain.records ∧ report.visionRecords = reportAgain.visionRecords ∧
        report.rejectedRecords = reportAgain.rejectedRecords ∧
        report.duplicateCommands = reportAgain.duplicateCommands ∧
        (report.sources.map SourceSummary.content).Perm
          (reportAgain.sources.map SourceSummary.content) ∧
        (report.autorefs.map AutorefResult.grade).Perm (reportAgain.autorefs.map AutorefResult.grade) := by
  intro outcome outcomeAgain
  have reported := @run_without_sheets pb settings flush logPath folder name bytes opened found framed
    fun sheet sheetName named => (unsheeted sheet sheetName named).1
  have reportedAgain := @run_without_sheets pb settings flush logPath folderAgain name bytesAgain opened
    foundAgain framedAgain fun sheet sheetName named => (unsheeted sheet sheetName named).2
  -- the two runs read the same human events, and the same number of sources
  have sameHuman : (((Ingest.run pb settings (Log.read pb bytes).datagrams).streams.map
      CommandStream.observed).headD (0, 0, [])).2.2 =
        (((Ingest.run pb settings (Log.read pb bytesAgain).datagrams).streams.map
          CommandStream.observed).headD (0, 0, [])).2.2 := by
    rw [List.headD_eq_head?_getD, List.headD_eq_head?_getD, sameHead]
  have sameLength := observedPerm.length_eq
  have tails := perm_tail_of_head?_eq observedPerm sameHead
  dsimp only at reported reportedAgain counts
  rw [← sameHuman, ← sameLength] at reportedAgain
  obtain ⟨records, visionRecords, rejected, duplicates⟩ := counts
  refine ⟨fun problem => ?_, fun report reportAgain succeeded succeededAgain => ?_⟩
  · -- a run stops for a reason that only the human events and the sheet names give
    rw [except_eq_error_iff_of_map reported, except_eq_error_iff_of_map reportedAgain]
    split
    · rfl
    · rw [Sheet.map_eq_error_iff, Sheet.map_eq_error_iff]
  · rw [succeeded] at reported
    rw [succeededAgain] at reportedAgain
    split at reported
    · cases reported
    · rename_i heard
      rw [if_neg heard] at reportedAgain
      generalize sheetsOpen settings logPath 1
        (((Ingest.run pb settings (Log.read pb bytes).datagrams).streams.map
          CommandStream.observed).length - 1) = opens at reported reportedAgain
      cases opens with
      | error problem =>
          cases reported
      | ok done =>
          have viewed := Except.ok.inj reported
          have viewedAgain := Except.ok.inj reportedAgain
          simp only [Prod.mk.injEq] at viewed viewedAgain
          obtain ⟨reportRecords, reportVision, reportRejected, reportDuplicates, reportSources,
            reportGrades⟩ := viewed
          obtain ⟨againRecords, againVision, againRejected, againDuplicates, againSources,
            againGrades⟩ := viewedAgain
          have gradesPerm : ((report.autorefs.map AutorefResult.grade).map some).Perm
              ((reportAgain.autorefs.map AutorefResult.grade).map some) := by
            rw [List.map_map, List.map_map]
            show (report.autorefs.map fun result => some result.grade).Perm
              (reportAgain.autorefs.map fun result => some result.grade)
            rw [reportGrades, againGrades]
            exact tails.map _
          refine ⟨by rw [reportRecords, againRecords, records],
            by rw [reportVision, againVision, visionRecords],
            by rw [reportRejected, againRejected, rejected],
            by rw [reportDuplicates, againDuplicates, duplicates], ?_,
            (List.map_perm_map_iff fun _ _ => Option.some_inj.1).1 gradesPerm⟩
          rw [reportSources, againSources]
          exact observedPerm.map _

end Runs

end Grading

/-! ## Grading does not see how the listeners' writes interleave -/

/-- Two captures that hold the same datagrams, with the referee traffic of each port in the same
order, ingest to the same ports, the referee box's first, with the same counts, and for each port
the same commands, each at the index of its stream. Graded in folders that hold no sheet, their
logs stop the run for the same reason, or give reports with the same counts, and the same
sources and grades up to the order of the sources. -/
theorem interleaved_capture_grades_alike (pb : Protobuf) (settings : Settings) {datagrams reordered : List Datagram}
    (perm : datagrams.Perm reordered)
    (ordered : ∀ port, datagrams.filter (Ingest.isRefereeOn settings port) =
      reordered.filter (Ingest.isRefereeOn settings port)) :
    let ingest := Ingest.run pb settings datagrams
    let ingestAgain := Ingest.run pb settings reordered
    (ingest.ports.Perm ingestAgain.ports ∧
      ingest.ports.head? = some settings.refboxPort ∧
      ingestAgain.ports.head? = some settings.refboxPort ∧
      ingest.records = ingestAgain.records ∧ ingest.visionRecords = ingestAgain.visionRecords ∧
      ingest.rejected = ingestAgain.rejected ∧ ingest.duplicates = ingestAgain.duplicates ∧
      ∀ (index otherIndex : Nat) (stream other : CommandStream),
        ingest.streams[index]? = some stream → ingestAgain.streams[otherIndex]? = some other →
        stream.port = other.port → other.commands = stream.commands.map (Command.withSource otherIndex)) ∧
    ∀ (flush : Option Bool) (logPath : List Nat) (name bytes bytesAgain : List UInt8)
      (folder folderAgain : Folder),
      Grading.fileNameOf (PathName.ofPoints logPath).toPoints = .ok name →
      folder.read? name = some bytes → folderAgain.read? name = some bytesAgain →
      (Log.read pb bytes).failure = none → (Log.read pb bytesAgain).failure = none →
      (Log.read pb bytes).datagrams = datagrams → (Log.read pb bytesAgain).datagrams = reordered →
      (∀ sheet sheetName, Grading.SheetName settings logPath sheet sheetName →
        folder.read? sheetName = none ∧ folderAgain.read? sheetName = none) →
      let outcome := ((@Grading.run (StateM Folder) _ _ pb settings flush logPath).run folder).1
      let outcomeAgain := ((@Grading.run (StateM Folder) _ _ pb settings flush logPath).run folderAgain).1
      (∀ problem, outcome.result = .error problem ↔ outcomeAgain.result = .error problem) ∧
      ∀ report reportAgain, outcome.result = .ok report → outcomeAgain.result = .ok reportAgain →
        report.records = reportAgain.records ∧ report.visionRecords = reportAgain.visionRecords ∧
        report.rejectedRecords = reportAgain.rejectedRecords ∧
        report.duplicateCommands = reportAgain.duplicateCommands ∧
        (report.sources.map SourceSummary.content).Perm
          (reportAgain.sources.map SourceSummary.content) ∧
        (report.autorefs.map AutorefResult.grade).Perm (reportAgain.autorefs.map AutorefResult.grade) := by
  intro ingest ingestAgain
  obtain ⟨records, visionRecords, rejected, duplicates⟩ := Ingest.counts_run_reordered perm ordered
  refine ⟨⟨Ingest.ports_run_perm perm, Ingest.head?_ports_run datagrams,
    Ingest.head?_ports_run reordered, records, visionRecords, rejected, duplicates,
    fun index otherIndex stream other found otherFound samePort =>
      Ingest.commands_run_reordered ordered found otherFound samePort⟩, ?_⟩
  intro flush logPath name bytes bytesAgain folder folderAgain opened found foundAgain framed
    framedAgain read readAgain unsheeted
  have sameHead : ((Ingest.run pb settings datagrams).streams.map CommandStream.observed).head? =
      ((Ingest.run pb settings reordered).streams.map CommandStream.observed).head? := by
    rw [Ingest.head?_observed_run, Ingest.head?_observed_run]
    simp only [Ingest.observedOn, ordered]
  rw [← read, ← readAgain] at sameHead records visionRecords rejected duplicates
  have observedPerm := @Ingest.observed_run_perm pb settings datagrams reordered perm ordered
  rw [← read, ← readAgain] at observedPerm
  exact Grading.run_alike_of_observed opened found foundAgain framed framedAgain unsheeted
    ⟨records, visionRecords, rejected, duplicates⟩ observedPerm sameHead

theorem interleaved_capture_grades_alike_two_ports :
    let datagrams := [Grading.callDatagram 10003, Grading.callDatagram 10010]
    let reordered := [Grading.callDatagram 10010, Grading.callDatagram 10003]
    datagrams.Perm reordered ∧
      (∀ port, datagrams.filter (Ingest.isRefereeOn {} port) =
        reordered.filter (Ingest.isRefereeOn {} port)) ∧
      (Ingest.run Wire.proto2 {} datagrams).ports.Perm (Ingest.run Wire.proto2 {} reordered).ports ∧
      (Ingest.run Wire.proto2 {} datagrams).duplicates = (Ingest.run Wire.proto2 {} reordered).duplicates := by
  intro datagrams reordered
  have perm : datagrams.Perm reordered := List.Perm.swap _ _ []
  have referee : ∀ sent, Ingest.isReferee {} (Grading.callDatagram sent) = true := by
    intro sent
    simp only [Ingest.isReferee, Ingest.isVision, Grading.callDatagram]
    simp only [Address.text.injEq, Bool.and_eq_true, Bool.not_eq_eq_eq_not, Bool.not_true,
      decide_eq_false_iff_not, decide_eq_true_eq]
    exact ⟨fun vision => absurd vision.1 (by decide), .inl trivial⟩
  have onPort : ∀ sent port, Ingest.isRefereeOn {} port (Grading.callDatagram sent) =
      decide (sent = port) := by
    intro sent port
    rw [Ingest.isRefereeOn, referee, Bool.true_and]
    rfl
  have ordered : ∀ port, datagrams.filter (Ingest.isRefereeOn {} port) =
      reordered.filter (Ingest.isRefereeOn {} port) := by
    intro port
    simp only [datagrams, reordered, List.filter_cons, List.filter_nil, onPort]
    by_cases first : (10003 : Int) = port <;> by_cases second : (10010 : Int) = port
    · omega
    all_goals simp [first, second]
  obtain ⟨⟨ports, -, -, -, -, -, duplicates, -⟩, -⟩ :=
    interleaved_capture_grades_alike Wire.proto2 {} perm ordered
  exact ⟨perm, ordered, ports, duplicates⟩

end RefereeGrading
