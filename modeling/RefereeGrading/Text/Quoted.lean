import RefereeGrading.Text.Printable

/-!
# Quoted text

The quoted form of a text, as messages show a value: single quotes, or double quotes when the
text holds a single quote and no double quote. Inside, the backslash and the chosen quote are
escaped, tab, line feed and carriage return have their letter escapes, and every other
character that is not printable becomes a hexadecimal escape of two, four or eight digits
(`\x7f`, `\ufeff`, `\U000e0001`). Printable characters stand as they are.
-/

namespace RefereeGrading.Text

/-- The lowercase hexadecimal digits of `n`, padded with zeros to `width`. -/
def hexDigits (width n : Nat) : List Char :=
  let digits := Nat.toDigits 16 n
  List.replicate (width - digits.length) '0' ++ digits

/-- The escaped form of one character inside quotes `q`. -/
def escapeChar (q : Char) (c : Char) : List Char :=
  let n := c.toNat
  if c = q || c = '\\' then ['\\', c]
  else if c = '\t' then ['\\', 't']
  else if c = '\n' then ['\\', 'n']
  else if c = '\r' then ['\\', 'r']
  else if isPrintable c then [c]
  else if n < 0x100 then '\\' :: 'x' :: hexDigits 2 n
  else if n < 0x10000 then '\\' :: 'u' :: hexDigits 4 n
  else '\\' :: 'U' :: hexDigits 8 n

def quoteChars (cs : List Char) : List Char :=
  let q := if cs.contains '\'' && !cs.contains '"' then '"' else '\''
  q :: cs.flatMap (escapeChar q) ++ [q]

def pointsOf (text : String) : List Nat :=
  text.toList.map Char.toNat

/-- The escaped form of one code point inside quotes `q`. A surrogate code point is no
character and is never printable, so it always becomes a four-digit escape. -/
def escapePoint (q : Char) (n : Nat) : List Char :=
  if 0xD800 ≤ n && n ≤ 0xDFFF then '\\' :: 'u' :: hexDigits 4 n else escapeChar q (Char.ofNat n)

/-- The quoted form of a text given as code points, which may include surrogates. -/
def quotePoints (points : List Nat) : String :=
  let q := if points.contains 0x27 && !points.contains 0x22 then '"' else '\''
  String.ofList (q :: points.flatMap (escapePoint q) ++ [q])

def quote (text : String) : String :=
  String.ofList (quoteChars text.toList)

example : quote "it's" = "\"it's\"" := by decide

end RefereeGrading.Text
