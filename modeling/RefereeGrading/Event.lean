import RefereeGrading.Command

/-!
# Events

An event is a call together with the time of the STOP that preceded it. Reading a command
stream in order, a STOP remembers its time; a call closes an event with the remembered time
(zero when no STOP came since the last call) and forgets it. Other commands leave the
remembered time alone.
-/

namespace RefereeGrading

/-- A call and the STOP before it. -/
structure Event where
  /-- Time of the STOP that opened the event, or `0` when there was none. -/
  stoppedAt : Int
  issuedAt : Int
  counter : Int
  code : Int
  deriving Repr, DecidableEq, Inhabited

namespace Event

/-- The events of a stream, given the STOP time remembered before it. -/
def extractFrom (stoppedAt : Int) : List Command → List Event
  | [] => []
  | command :: rest =>
    if command.code = stopCode then
      extractFrom command.issuedAt rest
    else if isCall command.code then
      ⟨stoppedAt, command.issuedAt, command.counter, command.code⟩ :: extractFrom 0 rest
    else
      extractFrom stoppedAt rest

/-- The events of a command stream, read in order. -/
def extract (commands : List Command) : List Event :=
  extractFrom 0 commands

/-- Every event is closed by a call. -/
theorem isCall_of_mem_extractFrom {stoppedAt : Int} {commands : List Command} {event : Event}
    (member : event ∈ extractFrom stoppedAt commands) : isCall event.code = true := by
  induction commands generalizing stoppedAt with
  | nil => simp [extractFrom] at member
  | cons command rest ih =>
    unfold extractFrom at member
    split at member
    · exact ih member
    · split at member
      · rcases List.mem_cons.1 member with same | later
        · subst same
          assumption
        · exact ih later
      · exact ih member

end Event

end RefereeGrading
