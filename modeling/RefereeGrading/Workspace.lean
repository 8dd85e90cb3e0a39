import RefereeGrading.Text.Quoted
import RefereeGrading.Text.FileName

/-!
# Paths and folders

The normal form of a path, the sibling path a sheet is written to, and `Workspace`, the two
file operations a grading run performs, with `Folder`, a set of files held in memory. Files are
named by bytes, as on disk.
-/

namespace RefereeGrading

/-- A path split into its root (no slash, `/` or `//`) and its components. Paths are code
points: a path is text, and text from outside may hold unpaired surrogates. -/
structure PathName where
  root : List Nat
  parts : List (List Nat)
  deriving Repr, DecidableEq

namespace PathName

def slash : Nat := 0x2F

def dot : Nat := 0x2E

/-- The root of a path text. -/
def rootOf : List Nat → List Nat
  | 0x2F :: 0x2F :: 0x2F :: _ => [slash]
  | 0x2F :: 0x2F :: _ => [slash, slash]
  | 0x2F :: _ => [slash]
  | _ => []

/-- The normal form of a path text. -/
def ofPoints (text : List Nat) : PathName :=
  { root := rootOf text, parts := (text.splitOn slash).filter fun part => part ≠ [] && part ≠ [dot] }

/-- The text of a path; the empty relative path is `.`. -/
def toPoints (path : PathName) : List Nat :=
  if path.root = [] && path.parts.isEmpty then [dot] else path.root ++ [slash].intercalate path.parts

/-- The last component, or the empty text when there is none. -/
def name (path : PathName) : List Nat := path.parts.getLastD []

/-- The path with its last component replaced by `newName`, kept as written. -/
def withName (path : PathName) (newName : List Nat) : Except String PathName :=
  if path.name = [] then
    .error ("PosixPath(" ++ Text.quotePoints path.toPoints ++ ") has an empty name")
  else if newName = [] || newName.head? = some slash || newName.getLast? = some slash ||
      (ofPoints newName).parts.length ≠ 1 then
    .error ("Invalid name " ++ Text.quotePoints newName)
  else
    .ok { path with parts := path.parts.dropLast ++ [newName] }

end PathName

/-- The message for a file that does not exist, with its path text quoted. -/
def missingFileMessage (path : List Nat) : String :=
  "[Errno 2] No such file or directory: " ++ Text.quotePoints path

/-- The file operations of a grading run, on files named by bytes. -/
class Workspace (m : Type → Type) where
  /-- The bytes of a file, or `none` when it does not exist. -/
  readFile? : List UInt8 → m (Option (List UInt8))
  /-- Creates or replaces a file. -/
  writeFile : List UInt8 → List UInt8 → m Unit

/-- Files held in memory, by normalised name, in the order they were created. -/
structure Folder where
  files : List (List UInt8 × List UInt8) := []
  deriving Inhabited

namespace Folder

/-- The key a file name is filed under: the normal form of the path it spells. The separator
and the dot are single bytes that no other character's bytes contain, so normalising the
bytes agrees with normalising the text. -/
def key (name : List UInt8) : List UInt8 :=
  (PathName.ofPoints (name.map UInt8.toNat)).toPoints.map Nat.toUInt8

def read? (folder : Folder) (name : List UInt8) : Option (List UInt8) :=
  (folder.files.find? fun entry => entry.1 = key name).map (·.2)

def erase (folder : Folder) (name : List UInt8) : Folder :=
  { files := folder.files.filter fun entry => entry.1 ≠ key name }

def write (folder : Folder) (name : List UInt8) (bytes : List UInt8) : Folder :=
  if (folder.read? name).isSome then
    { files := folder.files.map fun entry => if entry.1 = key name then (entry.1, bytes) else entry }
  else { files := folder.files ++ [(key name, bytes)] }

end Folder

instance : Workspace (StateM Folder) where
  readFile? path := do return (← get).read? path
  writeFile path bytes := modify fun folder => folder.write path bytes

end RefereeGrading
