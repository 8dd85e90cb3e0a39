import RefereeGrading.Text.Blank

/-!
# Environment files

An environment file binds names, one binding after another: an optional `export`, a name,
and optionally `=` and a value, single-quoted, double-quoted (with escapes) or bare (cut at
white space followed by `#`). A binding that goes wrong is skipped to the end of its line.
Values may refer to earlier names as `$\x7bNAME\x7d` or `$\x7bNAME:-default\x7d`. Reading and
expanding are loops bounded by the number of characters left.
-/

namespace RefereeGrading.EnvFile

def isInlineSpace (c : Char) : Bool :=
  Text.isSeparator c && c ≠ '\n'

/-- The text with `\r\n` and `\r` written as `\n`. -/
def normaliseBreaks : List Char → List Char
  | '\r' :: '\n' :: rest => '\n' :: normaliseBreaks rest
  | '\r' :: rest => '\n' :: normaliseBreaks rest
  | c :: rest => c :: normaliseBreaks rest
  | [] => []

/-- The rest of the line after a failure, and the line feed that ends it. -/
def skipLine (cs : List Char) : List Char :=
  (cs.dropWhile (· ≠ '\n')).drop 1

/-- Drops `export` and the spaces after it, when spaces do follow it. -/
def dropExport (cs : List Char) : List Char :=
  match cs with
  | 'e' :: 'x' :: 'p' :: 'o' :: 'r' :: 't' :: c :: rest =>
    if isInlineSpace c then rest.dropWhile isInlineSpace else cs
  | _ => cs

/-- The content of a quoted text up to its closing quote `q`, and what follows the quote. A
backslash takes the character after it into the content, whatever it is, a line break
included, so a quote after a backslash never closes the text; a backslash at the end of the
text leaves it unclosed. -/
def quotedFrom (q : Char) (content : List Char) : List Char → Option (List Char × List Char)
  | [] => none
  | '\\' :: c :: rest => quotedFrom q (c :: '\\' :: content) rest
  | c :: rest =>
    if c = q then some (content.reverse, rest)
    else if c = '\\' then none
    else quotedFrom q (c :: content) rest

/-- The character an escape letter in double quotes stands for. -/
def escapeOf (c : Char) : Option Char :=
  match c with
  | '\\' => some '\\'
  | '\'' => some '\''
  | '"' => some '"'
  | 'a' => some (Char.ofNat 7)
  | 'b' => some (Char.ofNat 8)
  | 'f' => some (Char.ofNat 12)
  | 'n' => some '\n'
  | 'r' => some '\r'
  | 't' => some '\t'
  | 'v' => some (Char.ofNat 11)
  | _ => none

/-- Replaces the escapes that `allowed` recognises, from left to right. -/
def unescape (allowed : Char → Option Char) : List Char → List Char
  | '\\' :: c :: rest =>
    match allowed c with
    | some e => e :: unescape allowed rest
    | none => '\\' :: unescape allowed (c :: rest)
  | c :: rest => c :: unescape allowed rest
  | [] => []

def singleEscape (c : Char) : Option Char :=
  if c = '\\' || c = '\'' then some c else none

/-- A line cut before its first run of white space that a `#` follows. -/
def beforeComment : List Char → List Char
  | [] => []
  | c :: rest =>
    if Text.isSeparator c && (rest.dropWhile Text.isSeparator).head? = some '#' then []
    else c :: beforeComment rest

def trimEnd (cs : List Char) : List Char :=
  (cs.reverse.dropWhile Text.isSeparator).reverse

/-- Reads a value after `=` and the white space after it: the value and the rest, or `none`
when a quote is not closed. An unquoted value is the rest of the line, cut before its first run
of white space that a `#` follows and trimmed; the white space after `=` counts for the cut, so
a line whose value starts with a comment binds the empty text. -/
def readValue (cs : List Char) : Option (List Char × List Char) :=
  match cs.dropWhile isInlineSpace with
  | '\'' :: rest => (quotedFrom '\'' [] rest).map fun (v, after) => (unescape singleEscape v, after)
  | '"' :: rest => (quotedFrom '"' [] rest).map fun (v, after) => (unescape escapeOf v, after)
  | _ =>
    let line := cs.takeWhile (· ≠ '\n')
    some ((trimEnd (beforeComment line)).dropWhile isInlineSpace, cs.drop line.length)

/-- Reads the end of a binding: an optional comment and the end of the line. -/
def readEnd (cs : List Char) : Option (List Char) :=
  let cs := cs.dropWhile isInlineSpace
  let cs := if cs.head? = some '#' then cs.dropWhile (· ≠ '\n') else cs
  match cs with
  | [] => some []
  | '\n' :: rest => some rest
  | _ => none

/-- One step of reading: the binding read (a name and maybe a value; none for a comment or a
skipped binding) and the rest, or `none` at the end of the text. -/
def readBinding (cs : List Char) : Option (Option (List Char × Option (List Char)) × List Char) :=
  match cs.dropWhile Text.isSeparator with
  | [] => none
  | start =>
    let start := dropExport start
    let named : Option (Option (List Char) × List Char) :=
      match start with
      | '#' :: _ => some (none, start)
      | '\'' :: rest =>
        let name := rest.takeWhile (· ≠ '\'')
        match rest.drop name.length with
        | '\'' :: after => if name.isEmpty then none else some (some name, after)
        | _ => none
      | _ =>
        let name := start.takeWhile fun c => c ≠ '=' && c ≠ '#' && !Text.isSeparator c
        if name.isEmpty then none else some (some name, start.drop name.length)
    match named with
    | none => some (none, skipLine start)
    | some (name, afterName) =>
      let afterName := afterName.dropWhile isInlineSpace
      let valued : Option (Option (List Char) × List Char) :=
        match afterName with
        | '=' :: rest => (readValue rest).map fun (v, after) => (some v, after)
        | _ => some (none, afterName)
      match valued with
      | none => some (none, skipLine (afterName.drop 1 |>.dropWhile isInlineSpace))
      | some (value, afterValue) =>
        match readEnd afterValue with
        | some rest => some (name.map fun n => (n, value), rest)
        | none => some (none, skipLine (afterValue.dropWhile isInlineSpace))

/-- The bindings of the rest of a text, in order; `fuel` bounds the number of steps. -/
def bindingsFrom : Nat → List Char → List (List Char × Option (List Char))
  | 0, _ => []
  | fuel + 1, cs =>
    match readBinding cs with
    | none => []
    | some (found, rest) => found.toList ++ bindingsFrom fuel rest

/-- The value of a reference to `name` with the given fallback, from the bindings before it:
a bound value, nothing for a name bound without a value, or the fallback. -/
def resolve (earlier : List (List Char × Option (List Char))) (name fallback : List Char) :
    List Char :=
  match (earlier.reverse.find? fun entry => entry.1 = name).map (·.2) with
  | some (some value) => value
  | some none => []
  | none => fallback

/-- A reference after its opening `${`: the name, the fallback, and the rest after the
closing brace. The name holds no colon; a fallback follows `:-`. -/
def reference? (cs : List Char) : Option (List Char × List Char × List Char) :=
  let inside := cs.takeWhile (· ≠ '}')
  match cs.drop inside.length with
  | '}' :: after =>
    let name := inside.takeWhile (· ≠ ':')
    match inside.drop name.length with
    | [] => some (name, [], after)
    | ':' :: '-' :: fallback => some (name, fallback, after)
    | _ => none
  | _ => none

/-- A value with its references replaced, from the bindings before it; `fuel` bounds the
steps. -/
def expandFrom (earlier : List (List Char × Option (List Char))) : Nat → List Char → List Char
  | 0, cs => cs
  | fuel + 1, '$' :: '{' :: rest =>
    match reference? rest with
    | some (name, fallback, after) => resolve earlier name fallback ++ expandFrom earlier fuel after
    | none => '$' :: expandFrom earlier fuel ('{' :: rest)
  | fuel + 1, c :: rest => c :: expandFrom earlier fuel rest
  | _ + 1, [] => []

def expand (earlier : List (List Char × Option (List Char))) (value : List Char) : List Char :=
  expandFrom earlier (value.length + 1) value

def dropByteOrderMark : List Char → List Char
  | '\uFEFF' :: rest => rest
  | cs => cs

/-- The bindings of an environment file, values expanded, in order. -/
def bindings (text : String) : List (String × Option String) :=
  let cs := normaliseBreaks (dropByteOrderMark text.toList)
  let raw := bindingsFrom (cs.length + 1) cs
  let expanded := raw.foldl (fun done (name, value) =>
    done ++ [(name, value.map (expand done))]) []
  expanded.map fun (name, value) => (String.ofList name, value.map String.ofList)

example : bindings "K= #x" = [("K", some "")] := by decide

example : bindings "K=\"a\\\"" = [] := by decide

end RefereeGrading.EnvFile
