import RefereeGrading.Log
import RefereeGrading.Settings
import RefereeGrading.Text.Integer

/-!
# Capturing datagrams

Listeners append every non-empty datagram to a log, in an envelope stamped with the
listener's address and port and a clock reading. Logs are named after the moment capture
started (`YYYY-MM-DD-HH-MM-SS-mmm.log`), and `address:port` pairs are cut at their last colon.
-/

namespace RefereeGrading

namespace Capture

/-- Splits `address:port` at the last colon, if both parts are valid. The text is given by its
code points: the address is kept as it is, surrogates and all, while a port that holds a
surrogate is no number. -/
def parseEndpoint (text : List Nat) : Option (List Nat × Int) :=
  match (text.splitOn 0x3A).reverse with
  | portText :: before@(_ :: _) =>
    let address := [0x3A].intercalate before.reverse
    if address.isEmpty || portText.isEmpty then none
    else match (Text.textOf? portText).bind Text.readInteger? with
      | some port => if 0 < port ∧ port < 65536 then some (address, port) else none
      | none => none
  | _ => none

/-- A moment of the calendar, to the microsecond. -/
structure Moment where
  year : Int
  month : Int
  day : Int
  hour : Int
  minute : Int
  second : Int
  microsecond : Int
  deriving Repr

def isLeap (year : Int) : Bool :=
  year % 4 = 0 && (year % 100 ≠ 0 || year % 400 = 0)

def daysIn (year month : Int) : Int :=
  if month = 2 then (if isLeap year then 29 else 28)
  else if month = 4 || month = 6 || month = 9 || month = 11 then 30
  else 31

/-- Why a moment is no valid date and time. Each component is first read as a 32-bit machine
integer through a 64-bit one, in order; only then are the ranges checked, in order. -/
inductive MomentError where
  | beyondLong
  | aboveInt
  | belowInt
  | outOfRange (message : String)
  deriving Repr, DecidableEq

def MomentError.message : MomentError → String
  | .beyondLong => "Python int too large to convert to C long"
  | .aboveInt => "signed integer is greater than maximum"
  | .belowInt => "signed integer is less than minimum"
  | .outOfRange message => message

/-- Whether a moment error is about the width of a component rather than its range. -/
def MomentError.isWidth : MomentError → Bool
  | .outOfRange _ => false
  | _ => true

/-- A component as a 32-bit machine integer, or why it is none. -/
def machineInt (n : Int) : Except MomentError Int :=
  if n < -0x8000000000000000 || 0x8000000000000000 ≤ n then .error .beyondLong
  else if 0x80000000 ≤ n then .error .aboveInt
  else if n < -0x80000000 then .error .belowInt
  else .ok n

def Moment.components (moment : Moment) : List Int :=
  [moment.year, moment.month, moment.day, moment.hour, moment.minute, moment.second,
    moment.microsecond]

/-- The moment if it is a valid date and time, or what is wrong with it. -/
def Moment.check (moment : Moment) : Except MomentError Moment := do
  moment.components.forM fun n => discard (machineInt n)
  let refuse (message : String) : Except MomentError Unit := throw (.outOfRange message)
  let year := moment.year
  if year < 1 || 9999 < year then refuse s!"year {year} is out of range"
  if moment.month < 1 || 12 < moment.month then refuse "month must be in 1..12"
  if moment.day < 1 || daysIn moment.year moment.month < moment.day then
    refuse "day is out of range for month"
  if moment.hour < 0 || 23 < moment.hour then refuse "hour must be in 0..23"
  if moment.minute < 0 || 59 < moment.minute then refuse "minute must be in 0..59"
  if moment.second < 0 || 59 < moment.second then refuse "second must be in 0..59"
  if moment.microsecond < 0 || 999999 < moment.microsecond then
    refuse "microsecond must be in 0..999999"
  return moment

def padded (width : Nat) (n : Int) : String :=
  let digits := toString n
  String.ofList (List.replicate (width - digits.length) '0') ++ digits

/-- The name of a log started at a moment. -/
def logFileName (moment : Moment) : Except MomentError String := do
  let m ← moment.check
  return "-".intercalate [toString m.year, padded 2 m.month, padded 2 m.day, padded 2 m.hour,
    padded 2 m.minute, padded 2 m.second, padded 3 (m.microsecond / 1000)] ++ ".log"

/-- A listener: where it listens and the receive size it asks for (`0` for the default). The
address is recorded as given, so it may be text that cannot be encoded. -/
structure Listener where
  address : Address
  port : Int
  maxDatagramSize : Int := 0
  deriving Repr

/-- What a listener did: the datagrams stored and the receive size of each receive. -/
structure Heard where
  received : Nat
  receiveSizes : List Int
  deriving Repr

/-- A run of listeners sharing one log. -/
structure Session where
  heard : List Heard := []
  count : Nat := 0
  log : List UInt8 := []
  deriving Repr, Inhabited

variable (pb : Protobuf)

/-- Appends datagrams to the log as records stamped by `clock`, counting from reading `taken`;
stops at the first datagram that cannot be written, keeping the records written before it. -/
def Session.store (session : Session) (listener : Listener) (clock : Nat → Int) (taken : Nat) :
    List (List UInt8) → Session × Option Log.WriteError
  | [] => (session, none)
  | payload :: rest =>
    let datagram : Datagram :=
      { address := listener.address, port := listener.port,
        timestamp := clock taken, payload }
    match Log.record pb datagram with
    | .ok bytes =>
      Session.store { session with count := session.count + 1, log := session.log ++ bytes }
        listener clock (taken + 1) rest
    | .error problem => (session, some problem)

/-- Runs a listener over its receives (`none` is a timeout), stamping stored datagrams with
successive readings of `clock`. Empty datagrams are not stored. The listener receives once
more after its last datagram, when it is told to stop. A failure to write stops the run. -/
def Session.listen (session : Session) (settings : Settings) (listener : Listener)
    (receives : List (Option (List UInt8))) (clock : Nat → Int) :
    Session × Option Log.WriteError :=
  let size := if listener.maxDatagramSize = 0 then settings.maxDatagramSize
    else listener.maxDatagramSize
  let stored := receives.filterMap fun r => match r with
    | some data => if data.isEmpty then none else some data
    | none => none
  let (written, failure) := session.store pb listener clock 0 stored
  ({ written with
      heard := session.heard ++ [⟨written.count - session.count,
        List.replicate (receives.length + 1) size⟩] }, failure)

end Capture

end RefereeGrading
