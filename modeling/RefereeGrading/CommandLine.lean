import RefereeGrading.Grading
import RefereeGrading.Text.Integer
import RefereeGrading.EnvFile
import RefereeGrading.Settings.Constructor
import RefereeGrading.OptionWords

/-!
# The grading command

The command takes a capture log and the options `--json`, `--by-command`,
`--no-flush-trailing`, the two tolerances, `--log-level` and `-h`. An option may be shortened
to any prefix that names only it, and a word that looks like a negative number is a value.
Options are taken from left to right; a usage problem or settings that do not validate exit
with code 2, a failed grading run with code 1. When a tolerance is given, the settings are
read again from the environment file `.env` and the tolerances given.
-/

namespace RefereeGrading

namespace CommandLine

/-- The options of the command. -/
inductive Flag where
  | help
  | json
  | byCommand
  | noFlushTrailing
  | humanToAutoDelay
  | autoToHumanDelay
  | logLevel
  deriving Repr, DecidableEq

def spellings : List (String × Flag) :=
  [("-h", .help), ("--help", .help), ("--json", .json), ("--by-command", .byCommand),
   ("--no-flush-trailing", .noFlushTrailing), ("--human-to-auto-delay-us", .humanToAutoDelay),
   ("--auto-to-human-delay-us", .autoToHumanDelay), ("--log-level", .logLevel)]

def Flag.takesValue : Flag → Bool
  | .humanToAutoDelay | .autoToHumanDelay | .logLevel => true
  | _ => false

/-- How one word of the command line reads. -/
inductive Word where
  /-- A value: a log path or an option's value, as code points. -/
  | value (points : List Nat)
  /-- The `--` that ends the options. -/
  | separator
  /-- An option, with the value given after `=` or run on after a short option. -/
  | option (flag : Flag) (attached : Option String)
  /-- A word that looks like an option this command does not have. -/
  | unknown
  deriving Repr, DecidableEq

/-- The options a word may abbreviate, with the value attached to it. -/
def candidates (word : String) : List (Flag × Option String) :=
  match word.toList with
  | '-' :: '-' :: _ =>
    let (stem, attached) := match word.splitOn "=" with
      | stem :: rest@(_ :: _) => (stem, some ("=".intercalate rest))
      | _ => (word, none)
    (spellings.filter fun (spelling, _) => stem.isPrefixOf spelling).map
      fun (_, flag) => (flag, attached)
  | '-' :: second :: rest =>
    let short := String.ofList ['-', second]
    spellings.filterMap fun (spelling, flag) =>
      if spelling = short then some (flag, some (String.ofList rest))
      else if word.isPrefixOf spelling then some (flag, none)
      else none
  | _ => []

/-- An option word with its attached text. Text run on after `-h` (directly or after `=`) is
more `-h` options when it is all `h`s. -/
def optionWord (spelling : String) (flag : Flag) (attached : Option String) : Word :=
  match attached with
  | some text =>
    if spelling = "-h" && !text.isEmpty && text.all (· = 'h') then .option flag none
    else .option flag attached
  | none => .option flag none

/-- A word as characters, for matching it against the options. Arguments are code points that
may hold unpaired surrogates; no option has one, so a surrogate stands as U+FFFD. -/
def spelling (word : List Nat) : String :=
  String.ofList (word.map fun n => if Text.isSurrogate n then '\uFFFD' else Char.ofNat n)

/-- Reads one word before the separator; `none` when it abbreviates more than one option. -/
def classify (points : List Nat) : Option Word :=
  let word := spelling points
  match word.toList with
  | [] => some (.value points)
  | first :: rest =>
    if first ≠ '-' then some (.value points)
    else match spellings.lookup word with
    | some flag => some (.option flag none)
    | none =>
      if rest.isEmpty then some (.value points)
      else
        let stem := (word.splitOn "=").headD word
        match (if word.contains '=' then spellings.lookup stem else none) with
        | some flag =>
          some (optionWord stem flag (some ("=".intercalate ((word.splitOn "=").drop 1))))
        | none =>
          match candidates word with
          | [(flag, attached)] =>
            some (optionWord (String.ofList (word.toList.take 2)) flag attached)
          | [] =>
            if OptionWords.looksNegative word || word.contains ' ' then some (.value points) else some .unknown
          | _ => none

/-- Reads all words: before the first `--` each on its own, after it every word is a value. -/
def classifyAll : List (List Nat) → Option (List Word)
  | [] => some []
  | [0x2D, 0x2D] :: rest => some (.separator :: rest.map Word.value)
  | word :: rest => do
    let first ← classify word
    let others ← classifyAll rest
    return first :: others

/-- What the command was asked to do. -/
structure Invocation where
  logFile : Option (List Nat) := none
  json : Bool := false
  byCommand : Bool := false
  noFlushTrailing : Bool := false
  /-- The tolerances given, as setting values; an emptied list of values stays a list. -/
  humanToAutoDelay : Option SettingValue := none
  autoToHumanDelay : Option SettingValue := none
  logLevel : Option LogLevel := none
  extra : Bool := false
  deriving Repr

/-- The outcome of reading the command line. -/
inductive Parsed where
  | run (invocation : Invocation)
  | help
  | usageError
  deriving Repr

/-- An invocation with an option's value applied, or `none` when the value is bad. The value
is `none` when the option's list of values was emptied: a tolerance then gets an empty list,
and the log level falls back to its default. -/
def applyValue (invocation : Invocation) (flag : Flag) (text : Option String) :
    Option Invocation :=
  let tolerance : Option SettingValue := match text with
    | some t => (Text.readInteger? t).map SettingValue.whole
    | none => some (.items [])
  match flag with
  | .humanToAutoDelay => tolerance.map fun v => { invocation with humanToAutoDelay := some v }
  | .autoToHumanDelay => tolerance.map fun v => { invocation with autoToHumanDelay := some v }
  | .logLevel =>
    match text with
    | some t => (LogLevel.parse? t).map fun level => { invocation with logLevel := some level }
    | none => some { invocation with logLevel := none }
  | _ => none

def applySwitch (invocation : Invocation) : Flag → Invocation
  | .json => { invocation with json := true }
  | .byCommand => { invocation with byCommand := true }
  | .noFlushTrailing => { invocation with noFlushTrailing := true }
  | _ => invocation

/-- Takes the words from left to right; `pending` is an option still waiting for its value, and
`afterLog` says whether the word before was the log file. The separator belongs to the log
file when it stands right before or right after it; anywhere else it is left over. -/
def consume (invocation : Invocation) (pending : Option Flag) (afterLog : Bool) :
    List Word → Parsed
  | [] =>
    if pending.isSome || invocation.logFile.isNone || invocation.extra then .usageError
    else .run invocation
  | .separator :: rest =>
    if pending.isSome then .usageError
    else
      let beforeLog := match rest with
        | .value _ :: _ => invocation.logFile.isNone
        | _ => false
      if afterLog || beforeLog then consume invocation none false rest
      else consume { invocation with extra := true } none false rest
  | .value text :: rest =>
    match pending with
    | some flag =>
      match applyValue invocation flag (some (spelling text)) with
      | some next => consume next none false rest
      | none => .usageError
    | none =>
      if invocation.logFile.isNone then
        consume { invocation with logFile := some text } none true rest
      else consume { invocation with extra := true } none false rest
  | .unknown :: rest =>
    if pending.isSome then .usageError
    else consume { invocation with extra := true } none false rest
  | .option flag attached :: rest =>
    if pending.isSome then .usageError
    else if flag = .help then
      if attached.isNone then .help else .usageError
    else if flag.takesValue then
      match attached with
      | some text =>
        match applyValue invocation flag (if text = "--" then none else some text) with
        | some next => consume next none false rest
        | none => .usageError
      | none => consume invocation (some flag) false rest
    else if attached.isNone then consume (applySwitch invocation flag) none false rest
    else .usageError

def parse (arguments : List (List Nat)) : Parsed :=
  match classifyAll arguments with
  | some words => consume {} none false words
  | none => .usageError

/-! ## The help page -/

def helpWidth : Nat := 78

def optionUsage : List String :=
  ["[-h]", "[--json]", "[--by-command]", "[--no-flush-trailing]",
   "[--human-to-auto-delay-us HUMAN_TO_AUTO_DELAY_US]",
   "[--auto-to-human-delay-us AUTO_TO_HUMAN_DELAY_US]",
   "[--log-level \x7bDEBUG,INFO,WARNING,ERROR,CRITICAL\x7d]"]

def positionalUsage : List String := ["log_file"]

/-- Fills words into lines of at most `helpWidth` characters, each line after `indent`; the
first line starts after `start` characters instead when that is given. -/
def fillLines (indent : Nat) (start : Option Nat) (parts : List String) : List String :=
  let pad := String.ofList (List.replicate indent ' ')
  let step (state : List String × List String × Nat) (part : String) :=
    let (done, line, used) := state
    if used + 1 + part.length > helpWidth && !line.isEmpty then
      (done ++ [pad ++ " ".intercalate line], [part], indent + part.length)
    else (done, line ++ [part], used + 1 + part.length)
  let (done, line, _) := parts.foldl step ([], [], (start.getD indent) - 1)
  let all := if line.isEmpty then done else done ++ [pad ++ " ".intercalate line]
  match start, all with
  | some _, first :: rest => String.ofList (first.toList.drop indent) :: rest
  | _, _ => all

/-- The usage line of the program `prog`, wrapped. -/
def usage (prog : String) : String :=
  let lead := "usage: "
  let whole := " ".intercalate (prog :: optionUsage ++ positionalUsage)
  if lead.length + whole.length ≤ helpWidth then lead ++ whole
  else if 4 * (lead.length + prog.length) ≤ 3 * helpWidth then
    let indent := lead.length + prog.length + 1
    lead ++ "\n".intercalate (fillLines indent (some lead.length) (prog :: optionUsage) ++
      fillLines indent none positionalUsage)
  else
    let indent := lead.length
    let together := fillLines indent none (optionUsage ++ positionalUsage)
    let lines := if together.length > 1 then
        fillLines indent none optionUsage ++ fillLines indent none positionalUsage
      else together
    lead ++ "\n".intercalate (prog :: lines)

/-- The help page of the program `prog`. -/
def helpPage (prog : String) : String :=
  usage prog ++ "\n\n" ++ "\n".intercalate
    ["Evaluate automatic referees against the human refbox", "",
     "positional arguments:",
     "  log_file              Capture log to evaluate", "",
     "options:",
     "  -h, --help            show this help message and exit",
     "  --json                Print the full report as JSON",
     "  --by-command          Also print metrics per referee command",
     "  --no-flush-trailing   Do not count human events after the last autoref event",
     "                        as false negatives",
     "  --human-to-auto-delay-us HUMAN_TO_AUTO_DELAY_US",
     "  --auto-to-human-delay-us AUTO_TO_HUMAN_DELAY_US",
     "  --log-level \x7bDEBUG,INFO,WARNING,ERROR,CRITICAL\x7d"] ++ "\n"

/-! ## Running the command -/

/-- What a run of the command gives: its exit code and what it printed, as code points (the
text report names the log by its path text, which may hold escaped bytes). -/
structure Exit where
  code : Nat
  output : List Nat
  deriving Repr, Inhabited

/-- The setting overrides an invocation asks for. -/
def Invocation.overrides (invocation : Invocation) : List (String × SettingValue) :=
  (invocation.humanToAutoDelay.toList.map fun v => ("human_to_auto_delay_us", v)) ++
    (invocation.autoToHumanDelay.toList.map fun v => ("auto_to_human_delay_us", v))

def environmentFile : String := ".env"

/-- Why the command fails instead of exiting with a status: a grading error that is no
expected failure, an environment file that is no UTF-8, or a JSON report whose paths hold a
run of surrogates that UTF-8 cannot write. -/
inductive CommandFault where
  | grading (error : GradingError)
  | environment (fault : Text.DecodeFault)
  | serialization (run : Text.SurrogateRun)
  deriving Repr

def CommandFault.message : CommandFault → List Nat
  | .grading error => error.message
  | .environment fault => Text.pointsOf fault.message
  | .serialization run =>
    Text.pointsOf ("Error serializing to JSON: UnicodeEncodeError: " ++
      (EncodeError.unencodable run).message)

variable {m : Type → Type} [Monad m] [Workspace m]

/-- The bindings of the environment file (none when there is no such file), or the fault that
keeps it from being text. -/
def environment : m (Except Text.DecodeFault (List (String × Option String))) := do
  match ← Workspace.readFile? (Text.encode environmentFile) with
  | some bytes => return (Text.decodeText bytes).map EnvFile.bindings
  | none => return .ok []

/-- Runs the command as the program `prog` with these arguments. The settings are the
defaults, or, when a tolerance is given, the environment file's bindings overridden by the
tolerances. A missing or broken log and a log without human events exit with status 1; any
other grading error, and an environment file that is no text, fail the command. -/
def run (pb : Protobuf) (prog : String) (arguments : List (List Nat)) : m (Except CommandFault Exit) := do
  match parse arguments with
  | .usageError => return .ok ⟨2, []⟩
  | .help => return .ok ⟨0, Text.pointsOf (helpPage prog)⟩
  | .run invocation =>
    let overrides := invocation.overrides
    let bindings ← if overrides.isEmpty then pure (.ok []) else environment
    match bindings with
    | .error fault => return .error (.environment fault)
    | .ok bindings =>
      let settings := if overrides.isEmpty then .ok Settings.ambient
        else Settings.build (Settings.fromEnvironment bindings) overrides
      match settings, invocation.logFile with
      | .ok settings, some logFile =>
        let flush := if invocation.noFlushTrailing then some false else none
        let outcome ← Grading.run pb settings flush logFile
        match outcome.result with
        | .ok report =>
          if invocation.json then
            match report.toJson.render with
            | .ok text => return .ok ⟨0, Text.pointsOf (text ++ "\n")⟩
            | .error run => return .error (.serialization run)
          else return .ok ⟨0, report.text invocation.byCommand ++ [0x0A]⟩
        | .error error =>
          if error.isExpected then return .ok ⟨1, []⟩ else return .error (.grading error)
      | _, _ => return .ok ⟨2, []⟩

end CommandLine

end RefereeGrading
