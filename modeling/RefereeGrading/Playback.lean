import RefereeGrading.Codec
import RefereeGrading.Decimal.Binary

/-!
# Playing a capture back

Playback sends the datagrams of a capture again with their recorded spacing: before each it
waits for the recorded gap less the time passed since the previous send, never a negative
time, in seconds as a double. A wait too long for a double stops playback; a refused send is
counted as failed. The player works on any `Network`, and a `Rehearsal` is a scripted one.
-/

namespace RefereeGrading

/-- The effects playback needs. -/
class Network (m : Type → Type) where
  /-- Reads the clock, in microseconds. -/
  now : m Int
  /-- Waits this many seconds. -/
  pause : Float → m Unit
  /-- Sends a datagram; `false` when the network refuses it. -/
  send : Datagram → m Bool

namespace Playback

/-- Microseconds to wait before sending a datagram recorded at `recordTime`, when the previous
one was recorded at `lastRecordTime` and sent at `lastSend`, and the clock reads `now`. -/
def waitMicros (recordTime lastRecordTime now lastSend : Int) : Int :=
  let recordedGap := if 0 < lastRecordTime then recordTime - lastRecordTime else 0
  let elapsed := if 0 < lastSend then now - lastSend else 0
  max 0 (recordedGap - elapsed)

/-- A wait in microseconds as seconds, or why it has none. -/
def seconds (micros : Int) : Except String Float :=
  match Decimal.wholeToDouble? micros with
  | some value => .ok (value / 1000000.0)
  | none => .error Decimal.wholeTooLarge

/-- How many sends went out and how many were refused. -/
structure Counts where
  sent : Nat := 0
  failed : Nat := 0
  deriving Repr, DecidableEq, Inhabited

/-- Playback stopped before its end: the sends so far and the reason. -/
structure Halt where
  counts : Counts
  reason : String
  deriving Repr, Inhabited

variable {m : Type → Type} [Monad m] [Network m]

/-- Plays datagrams, given the time of the last send and the recorded time of the last
datagram (zero before the first). -/
def playFrom (lastSend lastRecordTime : Int) (counts : Counts) :
    List Datagram → ExceptT Halt m Counts
  | [] => return counts
  | datagram :: rest => do
    let delay := waitMicros datagram.timestamp lastRecordTime (← (Network.now : m Int)) lastSend
    if delay ≠ 0 then
      match seconds delay with
      | .ok wait => (Network.pause wait : m Unit)
      | .error reason => throw { counts, reason }
    let delivered ← (Network.send datagram : m Bool)
    let counts := if delivered then { counts with sent := counts.sent + 1 }
      else { counts with failed := counts.failed + 1 }
    playFrom (← (Network.now : m Int)) datagram.timestamp counts rest

def play (datagrams : List Datagram) : ExceptT Halt m Counts :=
  playFrom 0 0 {} datagrams

inductive Step where
  | sent (datagram : Datagram)
  | failed (datagram : Datagram)
  | slept (seconds : Float)
  deriving Inhabited

/-- A network without a network: the clock gives `readings` in turn and then repeats the last
one, sends that `refuses` picks fail, and `steps` records what happened. -/
structure Rehearsal where
  readings : List Int
  taken : Nat := 0
  refuses : Datagram → Bool
  steps : List Step := []

instance : Network (StateM Rehearsal) where
  now := modifyGet fun r =>
    (r.readings.getD r.taken (r.readings.getLastD 0), { r with taken := r.taken + 1 })
  pause seconds := modify fun r => { r with steps := r.steps ++ [Step.slept seconds] }
  send datagram := modifyGet fun r =>
    if r.refuses datagram then (false, { r with steps := r.steps ++ [Step.failed datagram] })
    else (true, { r with steps := r.steps ++ [Step.sent datagram] })

end Playback

end RefereeGrading
