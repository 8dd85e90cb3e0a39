import RefereeGrading.Text.Quoted
import RefereeGrading.Text.Utf8

/-!
# Log levels

The five levels a log can be configured at. A level is named case-insensitively: the name is
put in capitals first, where a few letters outside ASCII have capitals in ASCII (dotless `ı`
becomes `I`, long `ſ` becomes `S`, sharp `ß` becomes `SS`, and the ligatures `ﬀ` to `ﬆ` become
their letters).
-/

namespace RefereeGrading

/-- The log levels, from the most to the least verbose. -/
inductive LogLevel where
  | debug
  | info
  | warning
  | error
  | critical
  deriving Repr, DecidableEq, Inhabited

namespace LogLevel

def name : LogLevel → String
  | debug => "DEBUG"
  | info => "INFO"
  | warning => "WARNING"
  | error => "ERROR"
  | critical => "CRITICAL"

/-- The level with exactly this name. -/
def ofName? : String → Option LogLevel
  | "DEBUG" => some debug
  | "INFO" => some info
  | "WARNING" => some warning
  | "ERROR" => some error
  | "CRITICAL" => some critical
  | _ => none

/-- The capital form of a character, where it matters for level names. -/
def capital (c : Char) : List Char :=
  match c.toNat with
  | 0x131 => ['I']
  | 0x17F => ['S']
  | 0xDF => ['S', 'S']
  | 0xFB00 => ['F', 'F']
  | 0xFB01 => ['F', 'I']
  | 0xFB02 => ['F', 'L']
  | 0xFB03 => ['F', 'F', 'I']
  | 0xFB04 => ['F', 'F', 'L']
  | 0xFB05 => ['S', 'T']
  | 0xFB06 => ['S', 'T']
  | _ => [c.toUpper]

def capitals (text : String) : String :=
  String.ofList (text.toList.flatMap capital)

/-- The level a name stands for, ignoring case. -/
def parse? (text : String) : Option LogLevel :=
  ofName? (capitals text)

/-- The level a name given by its code points stands for, or the message that it stands for
none. A name that holds a surrogate stands for no level. -/
def parse (points : List Nat) : Except String LogLevel :=
  match (Text.textOf? points).bind parse? with
  | some level => .ok level
  | none => .error ("unknown log level " ++ Text.quotePoints points)

end LogLevel

end RefereeGrading
