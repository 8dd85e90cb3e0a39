import RefereeGrading.Proofs.Interleaving

/-!
# What ingesting keeps and what it counts

Each stream holds exactly the strict running maxima of the commands decoded from its port's
referee traffic, duplicates counted apart; a counter that restarts has every later command
counted as a duplicate until it passes its old maximum. Every record is counted in exactly one
place.
-/

namespace RefereeGrading

/-! ## Running maxima -/

namespace Command

/-- Whether a command's counter is above the counter of every command of `earlier`. -/
def exceedsAll (earlier : List Command) (command : Command) : Bool :=
  earlier.all fun other => other.counter < command.counter

/-- Each command of a list, marked by whether its counter is above that of every command
before it. -/
def markMaxima (commands : List Command) : List (Command × Bool) :=
  commands.zipIdx.map fun (command, position) =>
    (command, exceedsAll (commands.take position) command)

/-- The strict running maxima of a list: the commands whose counter is above that of every
command before them. -/
def runningMaxima (commands : List Command) : List Command :=
  ((markMaxima commands).filter (·.2)).map Prod.fst

/-- The commands of a list whose counter is not above that of every command before them. -/
def stale (commands : List Command) : List Command :=
  ((markMaxima commands).filter (!·.2)).map Prod.fst

theorem markMaxima_append_singleton (commands : List Command) (command : Command) :
    markMaxima (commands ++ [command]) =
      markMaxima commands ++ [(command, exceedsAll commands command)] := by
  rw [markMaxima, List.zipIdx_append, List.map_append, markMaxima]
  congr 1
  · apply List.map_congr_left
    rintro ⟨earlier, position⟩ member
    have inside := (List.mem_zipIdx member).2.1
    simp only [List.take_append_of_le_length (show position ≤ commands.length by omega)]
  · simp

theorem runningMaxima_append_singleton (commands : List Command) (command : Command) :
    runningMaxima (commands ++ [command]) =
      runningMaxima commands ++ if exceedsAll commands command then [command] else [] := by
  rw [runningMaxima, markMaxima_append_singleton, List.filter_append, List.map_append]
  cases exceedsAll commands command <;> rfl

theorem length_runningMaxima_add_stale (commands : List Command) :
    (runningMaxima commands).length + (stale commands).length = commands.length := by
  have marks : (markMaxima commands).length = commands.length := by
    simp [markMaxima]
  rw [runningMaxima, stale, List.length_map, List.length_map, ← marks]
  exact (List.length_eq_length_filter_add _).symm

/-- The last running maximum carries the largest counter of the list: a counter is above it
exactly when it is above every counter of the list. -/
theorem lastCounter_runningMaxima_below (commands : List Command) (command : Command) :
    ((runningMaxima commands).getLast?.map (·.counter)).all (· < command.counter) =
      exceedsAll commands command := by
  induction commands using List.reverseRecOn with
  | nil =>
      rfl
  | append_singleton commands last inductionHypothesis =>
      have exceedsAppend : exceedsAll (commands ++ [last]) command =
          (exceedsAll commands command && decide (last.counter < command.counter)) := by
        simp [exceedsAll, List.all_append]
      rw [runningMaxima_append_singleton, exceedsAppend]
      cases record : exceedsAll commands last
      · -- a stale command is below some earlier one, so a counter above all the earlier ones
        -- is above it too
        rw [if_neg (by simp), List.append_nil, inductionHypothesis]
        cases above : exceedsAll commands command
        · rfl
        · obtain ⟨earlier, member, notBelow⟩ : ∃ earlier ∈ commands,
              ¬earlier.counter < last.counter := by
            simpa [exceedsAll] using record
          have earlierBelow : earlier.counter < command.counter := by
            simp only [exceedsAll, List.all_eq_true, decide_eq_true_eq] at above
            exact above earlier member
          rw [Bool.true_and, eq_comm, decide_eq_true_eq]
          omega
      · -- a new maximum is above every earlier command
        rw [if_pos rfl, List.getLast?_append_of_ne_nil _ (List.cons_ne_nil _ _)]
        simp only [List.getLast?_singleton, Option.map_some, Option.all_some]
        by_cases below : last.counter < command.counter
        · have above : exceedsAll commands command = true := by
            simp only [exceedsAll, List.all_eq_true, decide_eq_true_eq] at record ⊢
            exact fun earlier member => Int.lt_trans (record earlier member) below
          simp [above, below]
        · simp [below]

theorem runningMaxima_map_withSource (source : Int) (commands : List Command) :
    (runningMaxima commands).map (withSource source) =
      runningMaxima (commands.map (withSource source)) := by
  induction commands using List.reverseRecOn with
  | nil =>
      rfl
  | append_singleton commands last inductionHypothesis =>
      have sameMark : exceedsAll (commands.map (withSource source)) (last.withSource source) =
          exceedsAll commands last := by
        simp only [exceedsAll, List.all_map]
        rfl
      rw [List.map_append, List.map_singleton, runningMaxima_append_singleton,
        runningMaxima_append_singleton, sameMark, List.map_append, inductionHypothesis]
      cases exceedsAll commands last <;> rfl

/- A referee box that restarts its counter after 6: the commands after the restart are stale
until one passes 6. -/
example :
    runningMaxima [⟨0, 5, 10, 2⟩, ⟨0, 6, 20, 8⟩, ⟨0, 1, 30, 2⟩, ⟨0, 7, 40, 9⟩] =
      [⟨0, 5, 10, 2⟩, ⟨0, 6, 20, 8⟩, ⟨0, 7, 40, 9⟩] := by
  decide

end Command

namespace Ingest

/-! ## What a port's referee traffic decodes to -/

/-- The commands decoded at `source` from the referee traffic of a port, in order, duplicates
included. -/
def decodedOn (pb : Protobuf) (settings : Settings) (heard : List Datagram) (port source : Int) : List Command :=
  (heard.filter (isRefereeOn settings port)).filterMap fun datagram =>
    (Command.decode pb datagram.payload source).toOption

/-- Traffic that is neither vision traffic nor referee traffic, which ingesting passes over. -/
def isPassedOver (settings : Settings) (datagram : Datagram) : Bool :=
  !isVision settings datagram && !isReferee settings datagram

section PortStreams

variable (pb : Protobuf) (settings : Settings)

/-- A port's stream keeps the running maxima of what its traffic decodes to: the last counter
kept is the largest counter decoded so far. -/
theorem portCommands_eq_runningMaxima (traffic : List Datagram) :
    portCommands pb traffic =
      Command.runningMaxima (traffic.filterMap fun datagram =>
        (Command.decode pb datagram.payload 0).toOption) := by
  induction traffic using List.reverseRecOn with
  | nil =>
      rfl
  | append_singleton traffic datagram inductionHypothesis =>
      rw [portCommands_append, List.filterMap_append, inductionHypothesis, keepNext]
      cases decoded : Command.decode pb datagram.payload 0 with
      | error problem =>
          simp [Except.toOption, decoded]
      | ok command =>
          simp only [List.filterMap_cons, List.filterMap_nil, Except.toOption, decoded,
            Command.lastCounter_runningMaxima_below, Command.runningMaxima_append_singleton]
          split <;> simp_all

theorem decodedOn_eq_map_withSource (heard : List Datagram) (port source : Int) :
    decodedOn pb settings heard port source =
      ((heard.filter (isRefereeOn settings port)).filterMap fun datagram =>
        (Command.decode pb datagram.payload 0).toOption).map (Command.withSource source) := by
  rw [decodedOn, List.map_filterMap]
  apply List.filterMap_congr
  intro datagram _
  rw [Command.decode_at pb datagram.payload source 0]
  cases Command.decode pb datagram.payload 0 <;> rfl

theorem length_decodedOn (heard : List Datagram) (port source : Int) :
    (decodedOn pb settings heard port source).length =
      heard.countP fun datagram =>
        decodesCommand pb settings datagram && decide (datagram.port = port) := by
  rw [decodedOn_eq_map_withSource, List.length_map, List.length_filterMap_eq_countP,
    List.countP_filter]
  apply List.countP_congr
  intro datagram _
  cases decoded : Command.decode pb datagram.payload 0 <;>
    simp [decodesCommand, isRefereeOn, decoded, Except.toOption, Bool.and_comm]

end PortStreams

/-! ## Counting every record once -/

section Counts

variable (pb : Protobuf) (settings : Settings)

/-- Each datagram is counted in exactly one place. -/
theorem routes_sum_one (datagram : Datagram) :
    (if passesVision pb settings datagram then 1 else 0) +
        (if isRejected pb settings datagram then 1 else 0) +
        (if decodesCommand pb settings datagram then 1 else 0) +
        (if isPassedOver settings datagram then 1 else 0) = 1 := by
  -- the four tests are Boolean combinations of the same four facts about the datagram
  have everyCase : ∀ vision valid routed decodes : Bool,
      (if (vision && valid) = true then 1 else 0) +
          (if (vision && !valid || (!vision && routed) && !decodes) = true then 1 else 0) +
          (if ((!vision && routed) && decodes) = true then 1 else 0) +
          (if (!vision && !(!vision && routed)) = true then 1 else 0) = 1 := by
    decide
  exact everyCase (isVision settings datagram) (validateVision pb datagram.payload).isOk
    (decide (datagram.address = .text settings.refereeGroup ∨ datagram.port = settings.refboxPort))
    (Command.decode pb datagram.payload 0).isOk

theorem length_eq_sum_routes (heard : List Datagram) :
    heard.length = heard.countP (passesVision pb settings) + heard.countP (isRejected pb settings) +
      heard.countP (decodesCommand pb settings) + heard.countP (isPassedOver settings) := by
  induction heard with
  | nil =>
      rfl
  | cons datagram rest inductionHypothesis =>
      have one := routes_sum_one pb settings datagram
      simp only [List.length_cons, List.countP_cons]
      omega

theorem sum_map_indicator_of_nodup {ports : List Int} (distinct : ports.Nodup) (port : Int) :
    (ports.map fun other => if port = other then 1 else 0).sum = if port ∈ ports then 1 else 0 := by
  induction ports with
  | nil =>
      rfl
  | cons first rest inductionHypothesis =>
      obtain ⟨fresh, restDistinct⟩ := List.nodup_cons.1 distinct
      by_cases same : port = first
      · subst same
        simp [inductionHypothesis restDistinct, fresh]
      · simp [inductionHypothesis restDistinct, same]

theorem countP_eq_sum_ports {counts : Datagram → Bool} {ports : List Int} (distinct : ports.Nodup)
    {heard : List Datagram}
    (covered : ∀ datagram ∈ heard, counts datagram = true → datagram.port ∈ ports) :
    heard.countP counts =
      (ports.map fun port => heard.countP fun datagram =>
        counts datagram && decide (datagram.port = port)).sum := by
  induction heard with
  | nil =>
      simp
  | cons datagram rest inductionHypothesis =>
      have onOwnPort : (ports.map fun port =>
          if (counts datagram && decide (datagram.port = port)) = true then 1 else 0).sum =
            if counts datagram = true then 1 else 0 := by
        cases counting : counts datagram
        · simp
        · simp [sum_map_indicator_of_nodup distinct,
            covered datagram List.mem_cons_self counting]
      simp only [List.countP_cons]
      rw [List.sum_map_add, onOwnPort, inductionHypothesis fun other member =>
        covered other (List.mem_cons_of_mem datagram member)]

end Counts

/-! ## Streams and counts of an ingest -/

section Run

variable (pb : Protobuf) (settings : Settings) (datagrams : List Datagram)

theorem run_commands_eq_runningMaxima {index : Nat} {stream : CommandStream}
    (found : (run pb settings datagrams).streams[index]? = some stream) :
    stream.commands = Command.runningMaxima (decodedOn pb settings datagrams stream.port index) := by
  rw [run_streamed datagrams index stream found, portCommands_eq_runningMaxima,
    Command.runningMaxima_map_withSource, decodedOn_eq_map_withSource]

theorem countP_decodesCommand_run :
    datagrams.countP (decodesCommand pb settings) =
      ((run pb settings datagrams).streams.zipIdx.map fun (stream, index) =>
        (decodedOn pb settings datagrams stream.port index).length).sum := by
  have discovered : Discovered pb settings datagrams (run pb settings datagrams) :=
    run_discovered datagrams
  have distinct : (run pb settings datagrams).ports.Nodup := by
    rw [discovered.ports]
    exact nodup_eraseDups _
  have covered : ∀ datagram ∈ datagrams, decodesCommand pb settings datagram = true →
      datagram.port ∈ (run pb settings datagrams).ports := by
    intro datagram member decodes
    simp only [decodesCommand, Bool.and_eq_true] at decodes
    exact discovered.mem_ports member decodes.1
  have byStream : ((run pb settings datagrams).streams.map fun stream =>
      datagrams.countP fun datagram =>
        decodesCommand pb settings datagram && decide (datagram.port = stream.port)) =
      (run pb settings datagrams).streams.zipIdx.map fun (stream, index) =>
        (decodedOn pb settings datagrams stream.port index).length := by
    rw [← List.zipIdx_map_fst 0 (run pb settings datagrams).streams, List.map_map,
      List.zipIdx_map_fst]
    apply List.map_congr_left
    rintro ⟨stream, index⟩ _
    simp [length_decodedOn]
  rw [countP_eq_sum_ports distinct covered, ports, List.map_map, ← byStream]
  rfl

end Run

/-- Ingesting keeps in every stream the strict running maxima of the commands decoded from its
port's referee traffic, in log order; the duplicates are exactly the decoded commands not
kept; and every record is counted once, as vision traffic that passes, a rejection, a
duplicate, a kept command, or traffic that is neither vision nor referee traffic. -/
theorem run_keeps_running_maxima_and_counts_each_record (pb : Protobuf) (settings : Settings)
    (datagrams : List Datagram) :
    let ingest := run pb settings datagrams
    (∀ (index : Nat) (stream : CommandStream), ingest.streams[index]? = some stream →
        stream.commands = Command.runningMaxima (decodedOn pb settings datagrams stream.port index)) ∧
      ingest.duplicates = (ingest.streams.zipIdx.map fun (stream, index) =>
        (Command.stale (decodedOn pb settings datagrams stream.port index)).length).sum ∧
      ingest.records = ingest.visionRecords + ingest.rejected + ingest.duplicates +
        keptCount ingest.streams + datagrams.countP (isPassedOver settings) := by
  intro ingest
  have counted : Counted pb settings datagrams ingest := run_counted datagrams
  have kept : keptCount ingest.streams = (ingest.streams.zipIdx.map fun (stream, index) =>
      (Command.runningMaxima (decodedOn pb settings datagrams stream.port index)).length).sum := by
    rw [keptCount, ← List.zipIdx_map_fst 0 ingest.streams, List.map_map, List.zipIdx_map_fst]
    congr 1
    apply List.map_congr_left
    rintro ⟨stream, index⟩ member
    show stream.commands.length = _
    rw [run_commands_eq_runningMaxima pb settings datagrams (List.mem_zipIdx_iff_getElem?.1 member)]
  have split : ((ingest.streams.zipIdx.map fun (stream, index) =>
      (decodedOn pb settings datagrams stream.port index).length).sum) =
        (ingest.streams.zipIdx.map fun (stream, index) =>
          (Command.runningMaxima (decodedOn pb settings datagrams stream.port index)).length).sum +
        (ingest.streams.zipIdx.map fun (stream, index) =>
          (Command.stale (decodedOn pb settings datagrams stream.port index)).length).sum := by
    rw [← List.sum_map_add]
    congr 1
    apply List.map_congr_left
    rintro ⟨stream, index⟩ _
    exact (Command.length_runningMaxima_add_stale _).symm
  have decoded : datagrams.countP (decodesCommand pb settings) =
      (ingest.streams.zipIdx.map fun (stream, index) =>
        (decodedOn pb settings datagrams stream.port index).length).sum :=
    countP_decodesCommand_run pb settings datagrams
  have routes := length_eq_sum_routes pb settings datagrams
  have total := counted.duplicates
  refine ⟨fun index stream found => run_commands_eq_runningMaxima pb settings datagrams found,
    by omega, ?_⟩
  rw [counted.records, counted.visionRecords, counted.rejected]
  omega

end Ingest

end RefereeGrading
