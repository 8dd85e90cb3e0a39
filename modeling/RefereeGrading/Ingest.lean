import RefereeGrading.Log
import RefereeGrading.Settings
import RefereeGrading.Event

/-!
# Ingesting a capture

Ingesting sorts the datagrams of a capture into one command stream per referee port. Stream
0 belongs to the referee box port; other ports get the next index when they first send
referee traffic. Vision traffic is only checked, other traffic is passed over, a payload that
does not decode is rejected with a warning, and a command whose counter is not above the last
kept counter of its stream is a duplicate.
-/

namespace RefereeGrading

/-- The commands kept from one referee port, in arrival order. -/
structure CommandStream where
  port : Int
  commands : List Command := []
  deriving Repr, Inhabited

def CommandStream.lastCounter (stream : CommandStream) : Option Int :=
  stream.commands.getLast?.map (·.counter)

/-- The state of an ingest: the streams by index and the counts so far. -/
structure Ingest where
  streams : List CommandStream
  records : Nat := 0
  visionRecords : Nat := 0
  rejected : Nat := 0
  duplicates : Nat := 0
  warnings : List String := []
  deriving Inhabited

namespace Ingest

/-- The start of an ingest: only the referee box stream. -/
def start (settings : Settings) : Ingest :=
  { streams := [{ port := settings.refboxPort }] }

/-- The index of a port's stream, opening a stream for a new port. -/
def sourceIndex (state : Ingest) (port : Int) : Ingest × Nat :=
  match state.streams.findIdx? fun stream => stream.port = port with
  | some index => (state, index)
  | none => ({ state with streams := state.streams ++ [{ port }] }, state.streams.length)

/-- The ingest with a command kept in stream `index`, or counted as a duplicate. -/
def keep (state : Ingest) (index : Nat) (command : Command) : Ingest :=
  let stream := state.streams.getD index default
  match stream.lastCounter with
  | some last =>
    if command.counter ≤ last then { state with duplicates := state.duplicates + 1 }
    else { state with streams := state.streams.modify index fun s =>
      { s with commands := s.commands ++ [command] } }
  | none => { state with streams := state.streams.modify index fun s =>
      { s with commands := s.commands ++ [command] } }

variable (pb : Protobuf)

/-- The ingest after one more datagram. -/
def step (settings : Settings) (state : Ingest) (datagram : Datagram) : Ingest :=
  let state := { state with records := state.records + 1 }
  if datagram.address = .text settings.visionGroup ∧
      datagram.port = settings.visionPort then
    match validateVision pb datagram.payload with
    | .ok () => { state with visionRecords := state.visionRecords + 1 }
    | .error problem =>
      let time := datagram.timestamp
      let reason := problem.message
      { state with rejected := state.rejected + 1,
                   warnings := state.warnings ++ [s!"Rejected vision packet at {time}: {reason}"] }
  else if datagram.address ≠ .text settings.refereeGroup ∧
      datagram.port ≠ settings.refboxPort then state
  else
    let (state, index) := state.sourceIndex datagram.port
    match Command.decode pb datagram.payload index with
    | .ok command => state.keep index command
    | .error problem =>
      let port := datagram.port
      let reason := problem.message
      { state with rejected := state.rejected + 1,
                   warnings := state.warnings ++ [s!"Rejected referee packet from port {port}: {reason}"] }

def run (settings : Settings) (datagrams : List Datagram) : Ingest :=
  datagrams.foldl (step pb settings) (start settings)

/-- The events of every stream, by index. -/
def events (state : Ingest) : List (List Event) :=
  state.streams.map fun stream => Event.extract stream.commands

end Ingest

end RefereeGrading
