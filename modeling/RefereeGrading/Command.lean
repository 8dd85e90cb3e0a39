/-!
# Referee commands

A referee box sends numbered commands. The grading keeps, for each command, the source it came
from, its sequence counter, the time it was issued and its code. Codes 0 to 17 have names; any
other code is kept as sent and named `UNKNOWN_<code>`.

A *call* is a command that awards a free kick or a goal. Calls close the events that the
grading compares; a STOP opens them.
-/

namespace RefereeGrading

/-- The names of the command codes `0` to `17`, in code order. -/
def commandNames : List String :=
  ["HALT", "STOP", "NORMAL_START", "FORCE_START",
   "PREPARE_KICKOFF_YELLOW", "PREPARE_KICKOFF_BLUE",
   "PREPARE_PENALTY_YELLOW", "PREPARE_PENALTY_BLUE",
   "DIRECT_FREE_YELLOW", "DIRECT_FREE_BLUE",
   "INDIRECT_FREE_YELLOW", "INDIRECT_FREE_BLUE",
   "TIMEOUT_YELLOW", "TIMEOUT_BLUE",
   "GOAL_YELLOW", "GOAL_BLUE",
   "BALL_PLACEMENT_YELLOW", "BALL_PLACEMENT_BLUE"]

/-- The code of the STOP command, which starts the time span of an event. -/
def stopCode : Int := 1

/-- The name of a command code: its entry in `commandNames`, else `UNKNOWN_` and the code. -/
def commandName (code : Int) : String :=
  match code with
  | .ofNat n => (commandNames[n]?).getD ("UNKNOWN_" ++ toString code)
  | .negSucc _ => "UNKNOWN_" ++ toString code

/-- Calls are the direct and indirect free kicks and the goals, for either team. -/
def isCall (code : Int) : Bool :=
  code = 8 || code = 9 || code = 10 || code = 11 || code = 14 || code = 15

/-- A referee command as the grading keeps it. -/
structure Command where
  /-- Index of the stream the command arrived on. -/
  source : Int
  counter : Int
  /-- Time the command was issued, in microseconds. -/
  issuedAt : Int
  /-- The command code, possibly outside the named range. -/
  code : Int
  deriving Repr, DecidableEq, Inhabited

end RefereeGrading
