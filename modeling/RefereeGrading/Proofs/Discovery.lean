import RefereeGrading.Proofs.Ingest

/-!
# Which ports become streams

Ingesting numbers referee ports in the order they first send referee traffic, after the referee
box port, which holds stream 0. The invariant `Discovered`, kept by every step, ties the ports
of the streams to the first appearances of the ports of the referee traffic read, and every
kept command to a datagram read at its stream's index.
-/

namespace RefereeGrading

theorem Command.decode_at (pb : Protobuf) (payload : List UInt8) (source other : Int) :
    Command.decode pb payload source =
      (Command.decode pb payload other).map fun command => { command with source } := by
  unfold Command.decode
  cases pb.readReferee payload with
  | error reason =>
      rfl
  | ok message =>
      simp only [Except.mapError, bind, Except.bind]
      split <;> rfl

theorem Command.source_of_decode {pb : Protobuf} {payload : List UInt8} {source : Int} {command : Command}
    (decoded : Command.decode pb payload source = .ok command) : command.source = source := by
  rw [Command.decode_at pb payload source source] at decoded
  cases again : Command.decode pb payload source with
  | error problem =>
      rw [again] at decoded
      cases decoded
  | ok found =>
      rw [again] at decoded
      cases decoded
      rfl

namespace Ingest

section Routing

variable (settings : Settings)

/-- Vision traffic: sent to the vision group address, on the vision port. -/
def isVision (datagram : Datagram) : Bool :=
  decide (datagram.address = .text settings.visionGroup ∧ datagram.port = settings.visionPort)

/-- Referee traffic: not vision traffic, and sent to the referee group address or from the
referee box port. -/
def isReferee (datagram : Datagram) : Bool :=
  !isVision settings datagram &&
    decide (datagram.address = .text settings.refereeGroup ∨ datagram.port = settings.refboxPort)

end Routing

/-- The ports of the streams, by index. -/
def ports (state : Ingest) : List Int :=
  state.streams.map (·.port)

/-! ## Opening a port's stream -/

theorem streams_sourceIndex (state : Ingest) (port : Int) :
    (state.sourceIndex port).1.streams =
      if port ∈ state.ports then state.streams else state.streams ++ [{ port := port }] := by
  unfold sourceIndex
  cases found : state.streams.findIdx? fun stream => stream.port = port with
  | some index =>
      obtain ⟨inside, isPort, _⟩ := List.findIdx?_eq_some_iff_getElem.1 found
      have known : port ∈ state.ports := by
        simp only [decide_eq_true_eq] at isPort
        exact List.mem_map.2 ⟨_, List.getElem_mem inside, isPort⟩
      rw [if_pos known]
  | none =>
      have unknown : port ∉ state.ports := by
        rintro member
        obtain ⟨stream, streamMember, rfl⟩ := List.mem_map.1 member
        simpa using List.findIdx?_eq_none_iff.1 found stream streamMember
      rw [if_neg unknown]

theorem ports_sourceIndex (state : Ingest) (port : Int) :
    (state.sourceIndex port).1.ports =
      if port ∈ state.ports then state.ports else state.ports ++ [port] := by
  rw [ports, streams_sourceIndex]
  split <;> simp [ports]

theorem findIdx?_sourceIndex (state : Ingest) (port : Int) :
    (state.sourceIndex port).1.streams.findIdx? (fun stream => stream.port = port) =
      some (state.sourceIndex port).2 := by
  unfold sourceIndex
  cases found : state.streams.findIdx? fun stream => stream.port = port with
  | some index =>
      exact found
  | none =>
      simp [List.findIdx?_append, found]

theorem sourceIndex_congr {state other : Ingest} (same : state.streams = other.streams)
    (port : Int) :
    (state.sourceIndex port).1.streams = (other.sourceIndex port).1.streams ∧
      (state.sourceIndex port).2 = (other.sourceIndex port).2 := by
  unfold sourceIndex
  rw [same]
  split <;> simp [same]

/-! ## Keeping a command -/

theorem keep_eq_ite (state : Ingest) (index : Nat) (command : Command) :
    state.keep index command =
      if ((state.streams.getD index default).lastCounter.all fun last => last < command.counter)
      then { state with streams := state.streams.modify index fun s =>
        { s with commands := s.commands ++ [command] } }
      else { state with duplicates := state.duplicates + 1 } := by
  unfold keep
  dsimp only
  split
  · rename_i last lastKept
    rw [lastKept]
    by_cases repeated : command.counter ≤ last
    · rw [if_pos repeated, if_neg (by simp; omega)]
    · rw [if_neg repeated, if_pos (by simp; omega)]
  · rename_i lastKept
    rw [lastKept]
    rfl

theorem ports_keep (state : Ingest) (index : Nat) (command : Command) :
    (state.keep index command).ports = state.ports := by
  rw [keep_eq_ite]
  split
  · apply List.ext_getElem?
    intro j
    simp only [ports, List.getElem?_map, List.getElem?_modify]
    cases state.streams[j]? with
    | none =>
        rfl
    | some stream =>
        simp only [Option.map_some, Option.map_eq_map, Option.some.injEq]
        split <;> rfl
  · rfl

theorem mem_keep {state : Ingest} {index position : Nat} {command held : Command}
    {stream : CommandStream} (found : (state.keep index command).streams[position]? = some stream)
    (member : held ∈ stream.commands) :
    ∃ old, state.streams[position]? = some old ∧ old.port = stream.port ∧
      (held ∈ old.commands ∨ (position = index ∧ held = command)) := by
  rw [keep_eq_ite] at found
  split at found
  · simp only [List.getElem?_modify] at found
    cases before : state.streams[position]? with
    | none =>
        rw [before] at found
        cases found
    | some old =>
        rw [before] at found
        simp only [Option.map_eq_map, Option.map_some, Option.some.injEq] at found
        split at found
        · rename_i same
          subst found
          rcases List.mem_append.1 member with early | late
          · exact ⟨old, rfl, rfl, .inl early⟩
          · exact ⟨old, rfl, rfl, .inr ⟨same.symm, List.mem_singleton.1 late⟩⟩
        · subst found
          exact ⟨_, rfl, rfl, .inl member⟩
  · exact ⟨stream, found, rfl, .inl member⟩

theorem keep_congr {state other : Ingest} (same : state.streams = other.streams) (index : Nat)
    (command : Command) : (state.keep index command).streams = (other.keep index command).streams := by
  rw [keep_eq_ite, keep_eq_ite, same]
  split <;> rfl

/-! ## One datagram -/

/-- What one datagram does to the streams: nothing, unless it is referee traffic; referee
traffic finds or opens its port's stream and keeps there the command its payload decodes to,
if it decodes. -/
theorem streams_step (pb : Protobuf) (settings : Settings) (state : Ingest) (datagram : Datagram) :
    (step pb settings state datagram).streams =
      if isReferee settings datagram then
        match Command.decode pb datagram.payload (state.sourceIndex datagram.port).2 with
        | .ok command =>
          ((state.sourceIndex datagram.port).1.keep (state.sourceIndex datagram.port).2 command).streams
        | .error _ => (state.sourceIndex datagram.port).1.streams
      else state.streams := by
  unfold step
  dsimp only
  by_cases vision : datagram.address = .text settings.visionGroup ∧
      datagram.port = settings.visionPort
  · have notReferee : isReferee settings datagram = false := by
      simp [isReferee, isVision, vision]
    rw [if_pos vision, notReferee]
    split <;> rfl
  · rw [if_neg vision]
    by_cases foreign : datagram.address ≠ .text settings.refereeGroup ∧
        datagram.port ≠ settings.refboxPort
    · have notReferee : isReferee settings datagram = false := by
        simp only [isReferee, Bool.and_eq_false_iff, Bool.not_eq_false', decide_eq_false_iff_not,
          not_or]
        exact .inr foreign
      rw [if_pos foreign, notReferee]
      rfl
    · have referee : isReferee settings datagram = true := by
        simp only [isReferee, isVision, vision, decide_false, Bool.not_false, Bool.true_and,
          decide_eq_true_eq]
        tauto
      rw [if_neg foreign, if_pos referee]
      have counted : ({ state with records := state.records + 1 } : Ingest).streams =
          state.streams := rfl
      obtain ⟨sameStreams, sameIndex⟩ := sourceIndex_congr counted datagram.port
      rw [sameIndex]
      cases Command.decode pb datagram.payload (state.sourceIndex datagram.port).2 with
      | ok command =>
          exact keep_congr sameStreams _ _
      | error problem =>
          exact sameStreams

/-! ## First appearances -/

section FirstAppearances

variable {α : Type} [BEq α] [LawfulBEq α]

theorem eraseDups_append_singleton (items : List α) (item : α) :
    (items ++ [item]).eraseDups =
      if item ∈ items then items.eraseDups else items.eraseDups ++ [item] := by
  rw [List.eraseDups_append]
  by_cases seen : item ∈ items
  · have gone : [item].removeAll items = [] := by
      simp [List.removeAll, seen]
    rw [if_pos seen, gone, List.eraseDups_nil, List.append_nil]
  · have kept : [item].removeAll items = [item] := by
      simp [List.removeAll, seen]
    rw [if_neg seen, kept, List.eraseDups_cons]
    simp

theorem nodup_eraseDups (items : List α) : items.eraseDups.Nodup := by
  induction items using List.reverseRecOn with
  | nil =>
      exact List.nodup_nil
  | append_singleton items item inductionHypothesis =>
      rw [eraseDups_append_singleton]
      split
      · exact inductionHypothesis
      · rename_i fresh
        refine List.nodup_append.2 ⟨inductionHypothesis, List.pairwise_singleton _ item, ?_⟩
        intro earlier earlierMember later laterMember same
        have itself : earlier = item := same.trans (List.mem_singleton.1 laterMember)
        exact fresh (itself ▸ List.mem_eraseDups.1 earlierMember)

end FirstAppearances

/-! ## What the streams hold -/

section Discovery

variable (pb : Protobuf) (settings : Settings)

/-- Every command that stream `index` holds was decoded at `index` from referee traffic heard
on the stream's port. -/
def Sourced (heard : List Datagram) (streams : List CommandStream) : Prop :=
  ∀ (index : Nat) (stream : CommandStream), streams[index]? = some stream →
    ∀ command ∈ stream.commands,
    ∃ datagram ∈ heard, isReferee settings datagram = true ∧ datagram.port = stream.port ∧
      Command.decode pb datagram.payload index = .ok command

/-- What ingesting the datagrams `heard` leaves: the ports of the streams are the first
appearances among the referee box port and the ports of the referee traffic heard, and every
command kept was decoded from that traffic. -/
structure Discovered (heard : List Datagram) (state : Ingest) : Prop where
  ports : state.ports =
    (settings.refboxPort :: (heard.filter (isReferee settings)).map (·.port)).eraseDups
  sourced : Sourced pb settings heard state.streams

variable {pb settings}

theorem Sourced.mono {heard more : List Datagram} {streams : List CommandStream}
    (sourced : Sourced pb settings heard streams) (included : ∀ datagram ∈ heard, datagram ∈ more) :
    Sourced pb settings more streams := by
  intro index stream found command member
  obtain ⟨datagram, heardMember, facts⟩ := sourced index stream found command member
  exact ⟨datagram, included datagram heardMember, facts⟩

theorem sourced_sourceIndex {heard : List Datagram} {state : Ingest}
    (sourced : Sourced pb settings heard state.streams) (port : Int) :
    Sourced pb settings heard (state.sourceIndex port).1.streams := by
  intro index stream found command member
  rw [streams_sourceIndex] at found
  split at found
  · exact sourced index stream found command member
  · by_cases inside : index < state.streams.length
    · rw [List.getElem?_append_left inside] at found
      exact sourced index stream found command member
    · -- the new stream holds no command yet
      rw [List.getElem?_append_right (Nat.le_of_not_lt inside)] at found
      obtain rfl := List.mem_singleton.1 (List.mem_of_getElem? found)
      cases member

theorem port_sourceIndex (state : Ingest) (port : Int) :
    ∃ stream, (state.sourceIndex port).1.streams[(state.sourceIndex port).2]? = some stream ∧
      stream.port = port := by
  obtain ⟨inside, isPort, _⟩ := List.findIdx?_eq_some_iff_getElem.1 (findIdx?_sourceIndex state port)
  exact ⟨_, List.getElem?_eq_getElem inside, by simpa using isPort⟩

theorem sourced_keep {heard : List Datagram} {state : Ingest} {index : Nat} {command : Command}
    {datagram : Datagram} (sourced : Sourced pb settings heard state.streams)
    (heardMember : datagram ∈ heard) (referee : isReferee settings datagram = true)
    (portAt : ∃ stream, state.streams[index]? = some stream ∧ stream.port = datagram.port)
    (decoded : Command.decode pb datagram.payload index = .ok command) :
    Sourced pb settings heard (state.keep index command).streams := by
  intro position stream found held member
  obtain ⟨old, before, samePort, earlier | ⟨rfl, rfl⟩⟩ := mem_keep found member
  · rw [← samePort]
    exact sourced position old before held earlier
  · obtain ⟨opened, openedAt, openedPort⟩ := portAt
    rw [before] at openedAt
    cases openedAt
    exact ⟨datagram, heardMember, referee, by rw [← samePort, openedPort], decoded⟩

theorem start_discovered : Discovered pb settings [] (start settings) := by
  refine ⟨by simp [start, ports, List.eraseDups_cons], ?_⟩
  intro index stream found command member
  simp only [start, List.getElem?_singleton] at found
  split at found
  · cases found
    cases member
  · cases found

theorem step_discovered {heard : List Datagram} {state : Ingest}
    (discovered : Discovered pb settings heard state) (datagram : Datagram) :
    Discovered pb settings (heard ++ [datagram]) (step pb settings state datagram) := by
  have included : ∀ other ∈ heard, other ∈ heard ++ [datagram] := fun other member =>
    List.mem_append_left _ member
  have streams := streams_step pb settings state datagram
  by_cases referee : isReferee settings datagram = true
  · rw [if_pos referee] at streams
    have opened : Discovered pb settings (heard ++ [datagram]) (state.sourceIndex datagram.port).1 := by
      have grown : settings.refboxPort ::
          ((heard ++ [datagram]).filter (isReferee settings)).map (·.port) =
            (settings.refboxPort :: (heard.filter (isReferee settings)).map (·.port)) ++
              [datagram.port] := by
        simp [List.filter_append, referee]
      have known : datagram.port ∈ state.ports ↔
          datagram.port ∈ settings.refboxPort :: (heard.filter (isReferee settings)).map (·.port) := by
        rw [discovered.ports, List.mem_eraseDups]
      refine ⟨?_, (sourced_sourceIndex discovered.sourced _).mono included⟩
      rw [ports_sourceIndex, grown, eraseDups_append_singleton, ← discovered.ports]
      by_cases seen : datagram.port ∈ state.ports
      · rw [if_pos seen, if_pos (known.1 seen)]
      · rw [if_neg seen, if_neg (mt known.2 seen)]
    cases decoded : Command.decode pb datagram.payload (state.sourceIndex datagram.port).2 with
    | error problem =>
        rw [decoded] at streams
        exact ⟨by rw [ports, streams]; exact opened.ports, by rw [streams]; exact opened.sourced⟩
    | ok command =>
        rw [decoded] at streams
        refine ⟨?_, ?_⟩
        · rw [ports, streams, ← ports, ports_keep]
          exact opened.ports
        · rw [streams]
          exact sourced_keep opened.sourced (List.mem_append_right _ (List.mem_singleton_self _))
            referee (port_sourceIndex state datagram.port) decoded
  · -- other traffic changes no stream and adds no port
    rw [if_neg referee] at streams
    have same : (heard ++ [datagram]).filter (isReferee settings) =
        heard.filter (isReferee settings) := by
      simp [List.filter_append, referee]
    refine ⟨?_, ?_⟩
    · rw [ports, streams, same]
      exact discovered.ports
    · rw [streams]
      exact discovered.sourced.mono included

theorem run_append (first second : List Datagram) :
    run pb settings (first ++ second) = second.foldl (step pb settings) (run pb settings first) := by
  rw [run, run, List.foldl_append]

theorem run_discovered (datagrams : List Datagram) :
    Discovered pb settings datagrams (run pb settings datagrams) := by
  induction datagrams using List.reverseRecOn with
  | nil =>
      exact start_discovered
  | append_singleton datagrams datagram inductionHypothesis =>
      rw [run_append]
      exact step_discovered inductionHypothesis datagram

end Discovery

/-- The streams of an ingest: the referee box port first, then the other ports of the referee
traffic, rejected payloads included, each once and in the order it first sent; every command
of stream `index` has source `index` and was decoded from referee traffic of the stream's
port; and each stream's counters strictly increase. -/
theorem run_streams_by_first_referee_traffic (pb : Protobuf) (settings : Settings)
    (datagrams : List Datagram) :
    let ingest := run pb settings datagrams
    ingest.ports = settings.refboxPort ::
        (((datagrams.filter (isReferee settings)).map (·.port)).filter
          (· ≠ settings.refboxPort)).eraseDups ∧
      ingest.ports.Nodup ∧
      (∀ (index : Nat) (stream : CommandStream), ingest.streams[index]? = some stream →
        ∀ command ∈ stream.commands, command.source = index ∧
          ∃ datagram ∈ datagrams, isReferee settings datagram = true ∧
            datagram.port = stream.port ∧ Command.decode pb datagram.payload index = .ok command) ∧
      ∀ stream ∈ ingest.streams,
        stream.commands.Pairwise fun earlier later => earlier.counter < later.counter := by
  intro ingest
  have discovered : Discovered pb settings datagrams ingest := run_discovered datagrams
  have firsts : ingest.ports = settings.refboxPort ::
      (((datagrams.filter (isReferee settings)).map (·.port)).filter
        (· ≠ settings.refboxPort)).eraseDups := by
    rw [discovered.ports, List.eraseDups_cons]
    congr 2
    apply List.filter_congr
    intro port _
    by_cases same : port = settings.refboxPort <;> simp [same]
  refine ⟨firsts, ?_, ?_, ?_⟩
  · rw [discovered.ports]
    exact nodup_eraseDups _
  · intro index stream found command member
    obtain ⟨datagram, heard, referee, samePort, decoded⟩ :=
      discovered.sourced index stream found command member
    exact ⟨Command.source_of_decode decoded, datagram, heard, referee, samePort, decoded⟩
  · intro stream member
    exact (run_wellformed pb settings datagrams stream member).increasing

end Ingest

end RefereeGrading
