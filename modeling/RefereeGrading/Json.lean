import RefereeGrading.Decimal.Shortest
import RefereeGrading.Text.Utf8

/-!
# JSON documents

A JSON tree whose objects keep their members in order, and its indented text, two spaces per
level. String values are code points, since a path text may hold unpaired surrogates; UTF-8
has no form for them, so `render` refuses a tree that holds one and names the first run.
-/

namespace RefereeGrading

/-- A JSON value with ordered object members. -/
inductive Json where
  | null
  | bool (value : Bool)
  | int (value : Int)
  | float (value : Float)
  | str (value : List Nat)
  | arr (items : List Json)
  | obj (members : List (String × Json))
  deriving Inhabited

namespace Json

/-- The escaped form of one character inside a JSON string. -/
def escapeChar (c : Char) : String :=
  match c with
  | '"' => "\\\""
  | '\\' => "\\\\"
  | '\n' => "\\n"
  | '\r' => "\\r"
  | '\t' => "\\t"
  | '\x08' => "\\b"
  | '\x0c' => "\\f"
  | _ =>
    if c.toNat < 0x20 then
      let digits := Nat.toDigits 16 c.toNat
      "\\u" ++ String.ofList (List.replicate (4 - digits.length) '0' ++ digits)
    else String.ofList [c]

/-- A JSON string literal; a surrogate, which `render` never lets through, stands as U+FFFD. -/
def quoted (points : List Nat) : String :=
  let charOf (n : Nat) : Char := if Text.isSurrogate n then '\uFFFD' else Char.ofNat n
  "\"" ++ String.join (points.map fun n => escapeChar (charOf n)) ++ "\""

def indent (level : Nat) : String :=
  String.ofList (List.replicate (2 * level) ' ')

mutual

/-- The indented text of a value that starts at indentation `level`. -/
def pretty (level : Nat) : Json → String
  | .null => "null"
  | .bool value => if value then "true" else "false"
  | .int value => toString value
  | .float value => Decimal.shortestText value
  | .str value => quoted value
  | .arr [] => "[]"
  | .arr items => "[\n" ++ prettyItems (level + 1) items ++ "\n" ++ indent level ++ "]"
  | .obj [] => "\x7b\x7d"
  | .obj members =>
    "\x7b\n" ++ prettyMembers (level + 1) members ++ "\n" ++ indent level ++ "\x7d"

def prettyItems (level : Nat) : List Json → String
  | [] => ""
  | [item] => indent level ++ pretty level item
  | item :: rest => indent level ++ pretty level item ++ ",\n" ++ prettyItems level rest

def prettyMembers (level : Nat) : List (String × Json) → String
  | [] => ""
  | [member] => prettyMember level member
  | member :: rest => prettyMember level member ++ ",\n" ++ prettyMembers level rest

def prettyMember (level : Nat) : String × Json → String
  | (key, value) => indent level ++ quoted (Text.pointsOf key) ++ ": " ++ pretty level value

end

mutual

/-- The first run of surrogates in the strings of a value, in the order they are written. -/
def unencodable? : Json → Option Text.SurrogateRun
  | .str value => (Text.surrogateRun? value).map fun (start, stop) => ⟨value, start, stop⟩
  | .arr items => unencodableItems? items
  | .obj members => unencodableMembers? members
  | _ => none

def unencodableItems? : List Json → Option Text.SurrogateRun
  | [] => none
  | item :: rest =>
    match unencodable? item with
    | some run => some run
    | none => unencodableItems? rest

def unencodableMembers? : List (String × Json) → Option Text.SurrogateRun
  | [] => none
  | (_, value) :: rest =>
    match unencodable? value with
    | some run => some run
    | none => unencodableMembers? rest

end

/-- The indented text of a value, or the first run of surrogates that keeps it from being
written. -/
def render (value : Json) : Except Text.SurrogateRun String :=
  match value.unencodable? with
  | some run => .error run
  | none => .ok (value.pretty 0)

end Json

end RefereeGrading
