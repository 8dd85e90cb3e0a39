import RefereeGrading.Text.Digits
import RefereeGrading.Text.Quoted
import RefereeGrading.Text.Utf8

/-!
# Reading option words

An option parser reads its words from left to right. A word that is one of the parser's
options, alone or before an `=`, is that option; another word that starts with `-` and does not
look like a negative number is an unknown option; every other word, and every word after the
first `--`, is an argument. Each option but help takes exactly one value; words no option
takes are left over.
-/

namespace RefereeGrading.OptionWords

/-- Whether a word looks like a negative number: a minus, digits, and at most one point
followed by digits, then perhaps a line feed. -/
def looksNegative (word : String) : Bool :=
  let isDigit (c : Char) := (Text.digitValue? c).isSome
  let cs := word.toList
  let body := if cs.getLast? = some '\n' then cs.dropLast else cs
  match body with
  | '-' :: rest =>
    match rest.splitOn '.' with
    | [whole] => !whole.isEmpty && whole.all isDigit
    | [whole, fraction] => whole.all isDigit && !fraction.isEmpty && fraction.all isDigit
    | _ => false
  | _ => false

def dash : Nat := 0x2D

def equalsSign : Nat := 0x3D

def space : Nat := 0x20

/-- A word as characters; a surrogate, which no option holds, stands as U+FFFD. -/
def characters (word : List Nat) : String :=
  String.ofList (word.map fun n => if Text.isSurrogate n then '\uFFFD' else Char.ofNat n)

/-- A parser: the spellings of the options that take a value, and of the help option. -/
structure Parser where
  valueOptions : List String
  helpOptions : List String
  deriving Repr

/-- All spellings of a parser's options, the help option first. -/
def Parser.spellings (parser : Parser) : List String :=
  parser.helpOptions ++ parser.valueOptions

/-- How one word reads. -/
inductive Word where
  | argument (text : List Nat)
  | separator
  /-- One of the parser's options, with the text attached to it, if any. -/
  | option (spelling : String) (attached : Option (List Nat))
  /-- A word that looks like an option the parser does not have, as given. -/
  | unknown (text : List Nat)
  deriving Repr, DecidableEq

/-- The spelling among `spellings` that is this word, if any. -/
def named (spellings : List String) (word : List Nat) : Option String :=
  spellings.find? fun spelling => Text.pointsOf spelling = word

/-- Reads one word that comes before the separator. -/
def classify (spellings : List String) (word : List Nat) : Word :=
  match word with
  | [] => .argument word
  | first :: rest =>
    if first ≠ dash then .argument word
    else match named spellings word with
    | some spelling => .option spelling none
    | none =>
      let stem := word.takeWhile (· ≠ equalsSign)
      match (if word.contains equalsSign then named spellings stem else none) with
      | some spelling => .option spelling (some (word.drop (stem.length + 1)))
      | none =>
        match rest with
        | [] => .argument word
        | second :: runOn =>
          match (if second ≠ dash then named spellings [dash, second] else none) with
          | some spelling => .option spelling (some runOn)
          | none =>
            if looksNegative (characters word) || word.contains space then .argument word
            else .unknown word

/-- Reads all words: before the first `--` each on its own, after it every word is an
argument. -/
def readWords (spellings : List String) : List (List Nat) → List Word
  | [] => []
  | word :: rest =>
    if word = [dash, dash] then .separator :: rest.map Word.argument
    else classify spellings word :: readWords spellings rest

/-- How reading the words ends. -/
inductive Reading where
  /-- The values given, option by option in the order given, and the words left over. -/
  | given (values : List (String × List Nat)) (leftOver : List (List Nat))
  | help
  /-- The words cannot be read; the parser's message says why. -/
  | failed (message : List Nat)
  deriving Repr, DecidableEq

def expectedOne (name : String) : List Nat :=
  Text.pointsOf ("argument " ++ name ++ ": expected one argument")

def ignoredExplicit (name : String) (text : List Nat) : List Nat :=
  Text.pointsOf ("argument " ++ name ++ ": ignored explicit argument " ++ Text.quotePoints text)

def unrecognized (leftOver : List (List Nat)) : List Nat :=
  Text.pointsOf "unrecognized arguments: " ++ List.intercalate [space] leftOver

/-- How a help option with text attached reads: after `-h`, a run of more `h`s is more help
options; any other text is refused, from its first other letter on. -/
def helpWith (parser : Parser) (spelling : String) (text : List Nat) : Reading :=
  let name := "/".intercalate parser.helpOptions
  let remaining := text.dropWhile (· = 0x68)
  if spelling.length = 2 && !text.isEmpty then
    if remaining.isEmpty then .help else .failed (ignoredExplicit name remaining)
  else .failed (ignoredExplicit name text)

/-- Takes the words from left to right, with the values and left-over words so far. -/
def consume (parser : Parser) (values : List (String × List Nat))
    (leftOver : List (List Nat)) : List Word → Reading
  | [] => .given values leftOver
  | .argument text :: rest => consume parser values (leftOver ++ [text]) rest
  | .separator :: rest => consume parser values (leftOver ++ [[dash, dash]]) rest
  | .unknown text :: rest => consume parser values (leftOver ++ [text]) rest
  | .option spelling attached :: rest =>
    if parser.helpOptions.contains spelling then
      match attached with
      | none => .help
      | some text => helpWith parser spelling text
    else match attached with
      | some text => consume parser (values ++ [(spelling, text)]) leftOver rest
      | none =>
        match rest with
        | .separator :: .argument text :: more =>
          consume parser (values ++ [(spelling, text)]) leftOver more
        | .argument text :: .separator :: more =>
          consume parser (values ++ [(spelling, text)]) leftOver more
        | .argument text :: more => consume parser (values ++ [(spelling, text)]) leftOver more
        | _ => .failed (expectedOne spelling)

def read (parser : Parser) (words : List (List Nat)) : Reading :=
  consume parser [] [] (readWords parser.spellings words)

example :
    read ⟨["--port"], ["-h", "--help"]⟩
      [Text.pointsOf "--port=5", Text.pointsOf "--port", Text.pointsOf "-6"] =
      .given [("--port", Text.pointsOf "5"), ("--port", Text.pointsOf "-6")] [] := by
  decide

example :
    read ⟨["--port"], ["-h", "--help"]⟩ [Text.pointsOf "--port", Text.pointsOf "--x"] =
      .failed (Text.pointsOf "argument --port: expected one argument") := by
  decide

end RefereeGrading.OptionWords
