/-!
# Blank characters, fields and lines

The Unicode character classes the text formats depend on, on code points: white space
(`White_Space`), separators (white space and `U+001C` to `U+001F`), which cut a line into
non-empty fields, and line breaks, which cut a text into lines.
-/

namespace RefereeGrading.Text

/-- The code points with the Unicode `White_Space` property. -/
def isWhiteSpacePoint (n : Nat) : Bool :=
  (0x09 ≤ n && n ≤ 0x0D) || n = 0x20 || n = 0x85 || n = 0xA0 || n = 0x1680 ||
    (0x2000 ≤ n && n ≤ 0x200A) || n = 0x2028 || n = 0x2029 || n = 0x202F || n = 0x205F ||
    n = 0x3000

def isWhiteSpace (c : Char) : Bool :=
  isWhiteSpacePoint c.toNat

/-- Code points that separate fields: white space and the information separators. -/
def isSeparatorPoint (n : Nat) : Bool :=
  isWhiteSpacePoint n || (0x1C ≤ n && n ≤ 0x1F)

def isSeparator (c : Char) : Bool :=
  isSeparatorPoint c.toNat

/-- Characters that end a line. -/
def isLineBreak (c : Char) : Bool :=
  let n := c.toNat
  (0x0A ≤ n && n ≤ 0x0D) || (0x1C ≤ n && n ≤ 0x1E) || n = 0x85 || n = 0x2028 || n = 0x2029

/-- The field being read, in reverse, as a finished field list (empty when nothing was read). -/
def closeField {α : Type} (current : List α) : List (List α) :=
  if current.isEmpty then [] else [current.reverse]

/-- The fields of the rest of a text, given the reversed start of the field being read; the
items that `separates` picks cut the text. -/
def fieldsFrom {α : Type} (separates : α → Bool) (current : List α) : List α → List (List α)
  | [] => closeField current
  | c :: rest =>
    if separates c then closeField current ++ fieldsFrom separates [] rest
    else fieldsFrom separates (c :: current) rest

/-- The fields of a text. -/
def fields (text : String) : List String :=
  (fieldsFrom isSeparator [] text.toList).map String.ofList

/-- The fields of a text given as code points, which may include surrogates. -/
def pointFields (points : List Nat) : List (List Nat) :=
  fieldsFrom isSeparatorPoint [] points

/-- The lines of the rest of a text, given the reversed start of the line being read. -/
def linesFrom (current : List Char) : List Char → List (List Char)
  | [] => closeField current
  | '\r' :: '\n' :: rest => current.reverse :: linesFrom [] rest
  | c :: rest =>
    if isLineBreak c then current.reverse :: linesFrom [] rest
    else linesFrom (c :: current) rest

/-- The lines of a text, without their breaks. -/
def lines (text : String) : List String :=
  (linesFrom [] text.toList).map String.ofList

/-- A text is blank when it holds separators only. -/
def isBlank (text : String) : Bool :=
  text.toList.all isSeparator

example : fields " 0\tTP　 1 " = ["0", "TP", "1"] := by decide

example : lines "a\r\nb\rc\n" = ["a", "b", "c"] := by decide

end RefereeGrading.Text
