import RefereeGrading.Settings
import RefereeGrading.OptionWords

/-!
# The settings constructor

The settings are built from keyword arguments and the constructor's own options, whose names
start with an underscore. `_build_sources` replaces every source of settings; `_cli_parse_args`
gives command-line words, read as options named after the settings, that win over the keyword
arguments. Values are then checked as in `Settings.withOverrides`.
-/

namespace RefereeGrading

/-- The kinds of exception the constructor raises besides a validation error. -/
inductive Raised where
  | typeError
  | valueError
  | settingsError
  deriving Repr, DecidableEq

def Raised.name : Raised → String
  | .typeError => "TypeError"
  | .valueError => "ValueError"
  | .settingsError => "SettingsError"

/-- Why settings cannot be built: some values are invalid, an exception is raised with a
message, or the command-line reader ends the process with an exit status. -/
inductive SettingsFault where
  | invalid (issues : List SettingIssue)
  | raised (kind : Raised) (message : List Nat)
  | exit (status : Nat)
  deriving Repr

/-- An exception of a kind, with a message. -/
def SettingsFault.of (kind : Raised) (message : String) : SettingsFault :=
  .raised kind (Text.pointsOf message)

namespace SettingValue

/-- The name of the type of a decoded value, as error messages give it. -/
def typeName : SettingValue → String
  | .null => "NoneType"
  | .flag _ => "bool"
  | .whole _ => "int"
  | .real _ => "float"
  | .text _ => "str"
  | .items _ => "list"
  | .members _ => "dict"

/-- Whether a value counts as true: it is not null, false, zero or empty. -/
def truthy : SettingValue → Bool
  | .null => false
  | .flag value => value
  | .whole value => value != 0
  | .real value => value != 0
  | .text points => !points.isEmpty
  | .items values => !values.isEmpty
  | .members entries => !entries.isEmpty

/-- The values a value yields when gone through, if it can be: a list its items, a text its
characters (each a text), a table its keys. -/
def elements? : SettingValue → Option (List SettingValue)
  | .items values => some values
  | .text points => some (points.map fun point => .text [point])
  | .members entries => some (entries.map fun entry => .text entry.1)
  | _ => none

end SettingValue

namespace Settings

/-- The name under which the constructor receives the settings object itself; a keyword
argument of this name binds it a second time. -/
def receiverName : String := "__pydantic_self__"

def receiverTwice : SettingsFault :=
  .of .typeError
    ("BaseSettings.__init__() got multiple values for argument '" ++ receiverName ++ "'")

/-- The value given for one of the constructor's options, unless it is absent or null. -/
def option? (arguments : List (String × SettingValue)) (name : String) : Option SettingValue :=
  match arguments.find? fun entry => entry.1 = name with
  | some (_, .null) => none
  | some (_, value) => some value
  | none => none

def optionHolds (arguments : List (String × SettingValue)) (name : String) : Bool :=
  (option? arguments name).any SettingValue.truthy

/-- Unpacks a value into exactly two, as assigning it to a pair does. -/
def unpackPair (value : SettingValue) : Except SettingsFault (SettingValue × SettingValue) :=
  match value.elements? with
  | none => .error (.of .typeError ("cannot unpack non-iterable " ++ value.typeName ++ " object"))
  | some [first, second] => .ok (first, second)
  | some values =>
    if values.length < 2 then
      .error (.of .valueError ("not enough values to unpack (expected 2, got " ++
        toString values.length ++ ")"))
    else .error (.of .valueError "too many values to unpack (expected 2)")

/-- Settings from an explicit pair of sources and their arguments: with no sources, the
defaults; otherwise the first source is called, which no decoded value can be. -/
def fromExplicitSources (given : SettingValue) : Except SettingsFault Settings := do
  let (sources, _) ← unpackPair given
  if !sources.truthy then return {}
  match sources.elements? with
  | some (first :: _) => throw (.of .typeError ("'" ++ first.typeName ++ "' object is not callable"))
  | _ => throw (.of .typeError ("'" ++ sources.typeName ++ "' object is not iterable"))

/-- The command-line spelling of a setting: two dashes and its name, in kebab case with dashes
for underscores. -/
def optionSpelling (kebab : Bool) (name : String) : String :=
  "--" ++ if kebab then name.map fun c => if c = '_' then '-' else c else name

/-- The reader of the settings' command line. -/
def commandParser (kebab : Bool) : OptionWords.Parser :=
  { valueOptions := names.map (optionSpelling kebab), helpOptions := ["-h", "--help"] }

def lowerPoint (n : Nat) : Nat := if 0x41 ≤ n && n ≤ 0x5A then n + 32 else n

/-- A word as the case-insensitive reader sees it: when it starts with a dash and its first run
of characters that are neither white space nor `=` has at least two of them, that run is put
in lower case and what follows it is kept up to the first line feed. -/
def lowerOptionName (word : List Nat) : List Nat :=
  let name := word.takeWhile fun n => !Text.isSeparatorPoint n && n != 0x3D
  if word.head? = some OptionWords.dash && 2 ≤ name.length then
    name.map lowerPoint ++ (word.drop name.length).takeWhile (· != 0x0A)
  else word

/-- One command-line word given to the constructor. In the case-insensitive reader a false value
stands for an empty word and any other value that is no text is refused; otherwise a value that
is no text cannot be read as a word. -/
def commandWord (caseFree : Bool) (value : SettingValue) : Except SettingsFault (List Nat) :=
  match value with
  | .text points => .ok (if caseFree then lowerOptionName points else points)
  | other =>
    if caseFree then
      if other.truthy then
        .error (.of .typeError ("expected string or bytes-like object, got '" ++
          other.typeName ++ "'"))
      else .ok []
    else .error (.of .typeError ("'" ++ other.typeName ++ "' object is not subscriptable"))

/-- The words `_cli_parse_args` gives, if it asks for a command line at all. -/
def commandWords? (arguments : List (String × SettingValue)) :
    Except SettingsFault (Option (List SettingValue)) :=
  match option? arguments "_cli_parse_args" with
  | none => .ok none
  | some (.flag false) => .ok none
  | some (.flag true) => .ok (some [])
  | some (.whole 0) => .ok none
  | some (.items values) => .ok (some values)
  | some (.real value) =>
    if value == 0 then .ok none
    else .error (.of .settingsError
      "cli_parse_args must be List[str] or Tuple[str, ...], recieved <class 'float'>")
  | some other =>
    .error (.of .settingsError ("cli_parse_args must be List[str] or Tuple[str, ...], " ++
      "recieved <class '" ++ other.typeName ++ "'>"))

/-- The word that stands for null on the command line. -/
def noneWord (arguments : List (String × SettingValue)) : Option (List Nat) :=
  match option? arguments "_cli_parse_none_str" with
  | some (.text points) =>
    if points.isEmpty then some (Text.pointsOf "null") else some points
  | some other =>
    if other.truthy then none
    else match option? arguments "_cli_avoid_json" with
      | some (.flag true) => some (Text.pointsOf "None")
      | _ => some (Text.pointsOf "null")
  | none =>
    match option? arguments "_cli_avoid_json" with
    | some (.flag true) => some (Text.pointsOf "None")
    | _ => some (Text.pointsOf "null")

/-- The settings the command line gives, by name, the last value given for each. -/
def fromCommandLine (arguments : List (String × SettingValue)) :
    Except SettingsFault (List (String × SettingValue)) := do
  match ← commandWords? arguments with
  | none => return []
  | some given =>
    let caseFree := !optionHolds arguments "_case_sensitive"
    let kebab := optionHolds arguments "_cli_kebab_case"
    let exitOnError := ((option? arguments "_cli_exit_on_error").map SettingValue.truthy).getD true
    let failure (message : List Nat) : SettingsFault :=
      if exitOnError then .exit 2
      else .raised .settingsError (Text.pointsOf "error parsing CLI: " ++ message)
    let words ← given.mapM (commandWord caseFree)
    match OptionWords.read (commandParser kebab) words with
    | .help => throw (.exit 0)
    | .failed message => throw (failure message)
    | .given values leftOver =>
      if !leftOver.isEmpty && !optionHolds arguments "_cli_ignore_unknown_args" then
        throw (failure (OptionWords.unrecognized leftOver))
      let none? := noneWord arguments
      return names.filterMap fun name =>
        (values.reverse.find? fun entry => entry.1 = optionSpelling kebab name).map
          fun entry => (name, if none? = some entry.2 then .null else .text entry.2)

/-- Builds the settings from the overrides an environment gives and the constructor's keyword
arguments, options included. The command line wins over the arguments, which win over the
environment; unknown names are reported, those of the environment first. -/
def build (environment arguments : List (String × SettingValue)) :
    Except SettingsFault Settings := do
  if arguments.any fun entry => entry.1 = receiverName then throw receiverTwice
  match option? arguments "_build_sources" with
  | some given => fromExplicitSources given
  | none =>
    let command ← fromCommandLine arguments
    match withOverrides (environment ++ resolveArguments arguments ++ command) with
    | .ok settings => return settings
    | .error issues => throw (.invalid issues)

example :
    ((build [] [("refbox_port", .whole 6), ("_cli_parse_args",
      .items [.text (Text.pointsOf "--REFBOX_PORT"), .text (Text.pointsOf "5")])]).toOption.map
      Settings.refboxPort) = some 5 := by
  decide

end Settings

end RefereeGrading
