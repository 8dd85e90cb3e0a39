import RefereeGrading.LogLevel
import RefereeGrading.Text.Blank
import RefereeGrading.Decimal.Binary
import RefereeGrading.Text.Integer
import RefereeGrading.Text.Utf8

/-!
# Settings

The ten settings of the program, their defaults, and how overrides are checked. Overrides
arrive as loosely typed values and are converted leniently: whole numbers from truth values,
integral doubles and texts (`wholeOfText`), truth values from numbers and words. Texts are code
points. Each problem is reported under its setting's name. Keyword arguments name a setting in
any letter case, environment bindings with a prefix; arguments win.
-/

namespace RefereeGrading

/-- The program's settings. The texts are code points, see `SettingValue.text`. -/
structure Settings where
  refereeGroup : List Nat := Text.pointsOf "224.5.23.1"
  visionGroup : List Nat := Text.pointsOf "224.5.23.2"
  visionPort : Int := 10006
  refboxPort : Int := 10003
  humanToAutoDelay : Int := 0
  autoToHumanDelay : Int := 2000000
  flushTrailing : Bool := true
  correctionSuffix : List Nat := Text.pointsOf "eval"
  maxDatagramSize : Int := 65536
  logLevel : LogLevel := .info
  deriving Repr, Inhabited

/-- The settings the process starts with. Read from an environment that sets nothing, they are
the defaults. -/
def Settings.ambient : Settings := {}

/-- A loosely typed setting value. A text is given by its code points, which may include
unpaired surrogates. -/
inductive SettingValue where
  | null
  | flag (value : Bool)
  | whole (value : Int)
  | real (value : Float)
  | text (points : List Nat)
  | items (values : List SettingValue)
  | members (entries : List (List Nat × SettingValue))
  deriving Inhabited, Repr

/-- What is wrong with a setting value. -/
inductive SettingProblem where
  | intType
  | intParsing
  | intParsingSize
  | intFromFloat
  | finiteNumber
  | stringType
  | stringUnicode
  | boolType
  | boolParsing
  | literalError
  | greaterThanEqual
  | greaterThan
  | extraForbidden
  deriving Repr, DecidableEq

def SettingProblem.code : SettingProblem → String
  | .intType => "int_type"
  | .intParsing => "int_parsing"
  | .intParsingSize => "int_parsing_size"
  | .intFromFloat => "int_from_float"
  | .finiteNumber => "finite_number"
  | .stringType => "string_type"
  | .stringUnicode => "string_unicode"
  | .boolType => "bool_type"
  | .boolParsing => "bool_parsing"
  | .literalError => "literal_error"
  | .greaterThanEqual => "greater_than_equal"
  | .greaterThan => "greater_than"
  | .extraForbidden => "extra_forbidden"

/-- A problem with the override of one setting. -/
structure SettingIssue where
  name : String
  problem : SettingProblem
  deriving Repr, DecidableEq

namespace SettingValue

/-- The characters of a text, which it has unless it holds a surrogate. -/
def characters (points : List Nat) : Except SettingProblem String :=
  match Text.textOf? points with
  | some spelled => .ok spelled
  | none => .error .stringUnicode

/-- The whole number a double stands for, if it has no fractional part and fits 64 bits. -/
def wholeOfReal (x : Float) : Except SettingProblem Int :=
  match Decimal.Binary.ofFloat x with
  | .finite negative units _ _ =>
    let scale := 1 <<< Decimal.unitShift
    if units % scale ≠ 0 then .error .intFromFloat
    else
      let magnitude := units / scale
      if 0x8000000000000000 ≤ magnitude then .error .intParsingSize
      else .ok (if negative then -(magnitude : Int) else magnitude)
  | _ => .error .finiteNumber

def trimWhite (cs : List Char) : List Char :=
  ((cs.dropWhile Text.isWhiteSpace).reverse.dropWhile Text.isWhiteSpace).reverse

/-- How a text fails the strict form of a whole number. -/
inductive StrictFault where
  | malformed
  | tooLong
  deriving Repr, DecidableEq

def asciiValue (digits : List Char) : Nat :=
  digits.foldl (fun acc c => acc * 10 + (c.toNat - '0'.toNat)) 0

/-- The strict form of a whole number: an optional minus sign, then `0` alone or a digit from 1
to 9 followed by ASCII digits, and nothing else. A run of more than `Text.digitLimit` digits is
too long, whatever follows it; the sign does not count. -/
def strictWhole (cs : List Char) : Except StrictFault Int :=
  let (negative, body) : Bool × List Char := match cs with
    | '-' :: rest => (true, rest)
    | _ => (false, cs)
  match body with
  | ['0'] => .ok 0
  | c :: _ =>
    if c.isDigit && c ≠ '0' then
      let digits := body.takeWhile Char.isDigit
      if Text.digitLimit < digits.length then .error .tooLong
      else if digits.length = body.length then
        let n := asciiValue digits
        .ok (if negative then -(n : Int) else n)
      else .error .malformed
    else .error .malformed
  | [] => .error .malformed

/-- After leading zeros, the text from the character that ends them; `last` is the zero or
underscore read last. A nonzero digit or a minus sign starts the rest; zeros and underscores
alone leave their last character, and a point leaves the character before it as well. Any other
character gives `none`. -/
def afterZeros (last : Char) : List Char → Option (List Char)
  | [] => some [last]
  | c :: rest =>
    if c = '0' || c = '_' then afterZeros c rest
    else if c.isDigit || c = '-' then some (c :: rest)
    else if c = '.' then some (last :: c :: rest)
    else none

/-- The text without its leading zeros and the underscores among them, if it starts with a
zero. -/
def dropLeadingZeros : List Char → Option (List Char)
  | '0' :: rest => afterZeros '0' rest
  | _ => none

/-- The text before a final point that one or more zeros, and nothing else, follow. -/
def beforeZeroFraction? (cs : List Char) : Option (List Char) :=
  let reversed := cs.reverse
  let zeros := (reversed.takeWhile (· = '0')).length
  match reversed.drop zeros with
  | '.' :: front => if 0 < zeros then some front.reverse else none
  | _ => none

def doubleUnderscore : List Char → Bool
  | '_' :: '_' :: _ => true
  | _ :: rest => doubleUnderscore rest
  | [] => false

/-- The text without its underscores, if none starts or ends it and no two stand together. -/
def withoutUnderscores? (cs : List Char) : Option (List Char) :=
  if cs.head? = some '_' || cs.getLast? = some '_' || doubleUnderscore cs then none
  else some (cs.filter (· ≠ '_'))

/-- The whole number a text stands for. The text as given is first read in the strict form
(`strictWhole`); a strict reading whose digits run too long is too large. Failing that, the text
is read again after it is trimmed of white space and tidied: a leading sign is set aside, then
leading zeros, a final point followed by zeros, and underscores between other characters are
removed, and a minus sign is put back. A plus sign must be followed by something other than a
minus sign. The tidied text must then have the strict form; any failure there, a long run of
digits included, makes the text no number. The tidying does not look at what follows the zeros,
so `0-5` reads as -5. -/
def wholeOfText (text : String) : Except SettingProblem Int :=
  match strictWhole text.toList with
  | .ok n => .ok n
  | .error .tooLong => .error .intParsingSize
  | .error .malformed =>
    let (sign, unsigned) := match trimWhite text.toList with
      | '-' :: rest => (some '-', rest)
      | '+' :: rest => (some '+', rest)
      | cs => (none, cs)
    if sign = some '+' && unsigned.head? = some '-' then .error .intParsing
    else
      let unpadded := (dropLeadingZeros unsigned).getD unsigned
      let whole := (beforeZeroFraction? unpadded).getD unpadded
      let plain := (withoutUnderscores? whole).getD whole
      match strictWhole ((if sign = some '-' then ['-'] else []) ++ plain) with
      | .ok n => .ok n
      | .error _ => .error .intParsing

example : (wholeOfText "0-5").toOption = some (-5) := by decide

example : (wholeOfText "+-5").toOption = none := by decide

def asWhole : SettingValue → Except SettingProblem Int
  | .whole n => .ok n
  | .flag b => .ok (if b then 1 else 0)
  | .real x => wholeOfReal x
  | .text t => characters t >>= wholeOfText
  | _ => .error .intType

/-- The truth value of a word, ignoring ASCII case. -/
def truthOfText (text : String) : Except SettingProblem Bool :=
  let lower := String.ofList (text.toList.map Char.toLower)
  if text = "0" || ["f", "n", "no", "off", "false"].contains lower then .ok false
  else if text = "1" || ["t", "y", "on", "yes", "true"].contains lower then .ok true
  else .error .boolParsing

def asTruth : SettingValue → Except SettingProblem Bool
  | .flag b => .ok b
  | .text t => characters t >>= truthOfText
  | .whole n =>
    if n = 0 then .ok false else if n = 1 then .ok true
    else if -0x8000000000000000 ≤ n ∧ n < 0x8000000000000000 then .error .boolParsing
    else .error .boolType
  | .real x =>
    match wholeOfReal x with
    | .ok 0 => .ok false
    | .ok 1 => .ok true
    | .ok _ => .error .boolParsing
    | .error _ => .error .boolType
  | _ => .error .boolType

def asText : SettingValue → Except SettingProblem (List Nat)
  | .text t => .ok t
  | _ => .error .stringType

def asLevel : SettingValue → Except SettingProblem LogLevel
  | .text t => do
    match LogLevel.ofName? (← characters t) with
    | some level => .ok level
    | none => .error .literalError
  | _ => .error .literalError

end SettingValue

namespace Settings

/-- The names of the settings, in declaration order. -/
def names : List String :=
  ["referee_multicast", "vision_multicast", "vision_port", "refbox_port",
   "human_to_auto_delay_us", "auto_to_human_delay_us", "flush_trailing_human_events",
   "correction_suffix", "max_datagram_size", "log_level"]

def nonNegative (value : SettingValue) : Except SettingProblem Int := do
  let n ← value.asWhole
  if n < 0 then throw .greaterThanEqual
  return n

def positive (value : SettingValue) : Except SettingProblem Int := do
  let n ← value.asWhole
  if n ≤ 0 then throw .greaterThan
  return n

/-- Applies the override of the setting `name` to the settings, or names its problem. -/
def applyOne (settings : Settings) (name : String) (value : SettingValue) :
    Except SettingProblem Settings :=
  match name with
  | "referee_multicast" => value.asText.map fun v => { settings with refereeGroup := v }
  | "vision_multicast" => value.asText.map fun v => { settings with visionGroup := v }
  | "vision_port" => value.asWhole.map fun v => { settings with visionPort := v }
  | "refbox_port" => value.asWhole.map fun v => { settings with refboxPort := v }
  | "human_to_auto_delay_us" =>
    (nonNegative value).map fun v => { settings with humanToAutoDelay := v }
  | "auto_to_human_delay_us" =>
    (nonNegative value).map fun v => { settings with autoToHumanDelay := v }
  | "flush_trailing_human_events" => value.asTruth.map fun v => { settings with flushTrailing := v }
  | "correction_suffix" => value.asText.map fun v => { settings with correctionSuffix := v }
  | "max_datagram_size" => (positive value).map fun v => { settings with maxDatagramSize := v }
  | "log_level" => value.asLevel.map fun v => { settings with logLevel := v }
  | _ => .error .extraForbidden

/-- The prefix of the environment names of the settings, in lower case. -/
def environmentPrefix : String := "autoref_eval_"

/-- Bindings as a table, the way a dictionary keeps them: each name once, at the place where
it is first bound, with the value it is bound to last. -/
def asTable {κ α : Type} [DecidableEq κ] (bindings : List (κ × α)) : List (κ × α) :=
  (bindings.map (·.1)).eraseDups.filterMap fun name =>
    (bindings.reverse.find? fun entry => entry.1 = name).map fun entry => (name, entry.2)

def lowerName (name : String) : String := String.ofList (name.toList.map Char.toLower)

/-- The overrides that environment bindings give. The bindings are made a table, their names
are put in lower case, and the result is made a table again: of two spellings of one name, the
one whose first binding comes later counts, with the last value bound to it. The prefix
followed by a setting's name sets that setting when it has a value; a name bound without a
value leaves its setting alone. A setting's own name without the prefix is passed over, so that
only the prefixed form can set it. Any other name with a nonempty value is taken as it is, and
is unknown. -/
def fromEnvironment (bindings : List (String × Option String)) : List (String × SettingValue) :=
  let table := asTable ((asTable bindings).map fun (name, value) => (lowerName name, value))
  let valueOf (name : String) : Option String :=
    (table.find? fun entry => entry.1 = name).bind (·.2)
  let prefixed := names.filterMap fun setting =>
    (valueOf (environmentPrefix ++ setting)).map fun value =>
      (setting, SettingValue.text (Text.pointsOf value))
  let others := table.filterMap fun (name, value) =>
    if names.contains name || names.any (fun setting => environmentPrefix ++ setting = name) then
      none
    else match value with
      | some text => if text.isEmpty then none else some (name, .text (Text.pointsOf text))
      | none => none
  prefixed ++ others

/-- The value given for a name, the last one when it is given twice. -/
def lookup (overrides : List (String × SettingValue)) (name : String) : Option SettingValue :=
  (overrides.reverse.find? fun entry => entry.1 = name).map (·.2)

/-- The defaults with the overrides, given under the settings' exact names, applied, or every
problem found. Of a name given twice the last value counts. -/
def withOverrides (overrides : List (String × SettingValue)) :
    Except (List SettingIssue) Settings :=
  let known := names.foldl (fun (state : Settings × List SettingIssue) name =>
    match lookup overrides name with
    | none => state
    | some value =>
      match applyOne state.1 name value with
      | .ok next => (next, state.2)
      | .error problem => (state.1, state.2 ++ [⟨name, problem⟩])) ({}, [])
  let unknown := (overrides.map (·.1)).eraseDups.filter fun name => !names.contains name
  let issues := known.2 ++ unknown.map fun name => ⟨name, .extraForbidden⟩
  if issues.isEmpty then .ok known.1 else .error issues

/-- The keyword options of the settings constructor. They say where else settings are read
from (the environment, an environment file, a secrets folder, the command line) and how; they
are no settings, and the constructor takes any value for them without a check. -/
def constructorOptions : List String :=
  ["_case_sensitive", "_nested_model_default_partial_update", "_env_prefix",
   "_env_prefix_target", "_env_file", "_env_file_encoding", "_env_ignore_empty",
   "_env_nested_delimiter", "_env_nested_max_split", "_env_parse_none_str", "_env_parse_enums",
   "_cli_prog_name", "_cli_parse_args", "_cli_settings_source", "_cli_parse_none_str",
   "_cli_hide_none_type", "_cli_avoid_json", "_cli_enforce_required",
   "_cli_use_class_docs_for_groups", "_cli_exit_on_error", "_cli_prefix",
   "_cli_flag_prefix_char", "_cli_implicit_flags", "_cli_ignore_unknown_args",
   "_cli_kebab_case", "_cli_shortcuts", "_cli_show_env_vars", "_secrets_dir",
   "_env_file_depth", "_build_sources"]

/-- The keyword arguments of the constructor resolved against the settings: each setting takes
the value of the first argument whose name, with its letters in lower case, is the setting's
name; the options are set aside, and the other arguments keep their names, in the order
given. -/
def resolveArguments (arguments : List (String × SettingValue)) :
    List (String × SettingValue) :=
  let given := arguments.filter fun entry => !constructorOptions.contains entry.1
  let settings := names.filterMap fun setting =>
    (given.find? fun entry => lowerName entry.1 = setting).map fun entry => (setting, entry.2)
  settings ++ given.filter fun entry => !names.contains (lowerName entry.1)

example :
    ((resolveArguments [("VISION_PORT", .whole 5), ("Vision_Port", .whole 6),
      ("vision_port", .whole 7)]).map fun entry => (entry.1, entry.2.asWhole.toOption)) =
      [("vision_port", some 5)] := by
  decide

example :
    (fromEnvironment [("AUTOREF_EVAL_CORRECTION_SUFFIX", some "one"),
      ("autoref_eval_correction_suffix", some "two"),
      ("AUTOREF_EVAL_CORRECTION_SUFFIX", some "three")]).map
      (fun entry => (entry.1, entry.2.asText.toOption)) =
      [("correction_suffix", some (Text.pointsOf "two"))] := by
  decide

end Settings

end RefereeGrading
