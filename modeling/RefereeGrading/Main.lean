import RefereeGrading.CommandLine
import RefereeGrading.Wire.Proto2

/-!
# The command line program

Runs the grading command on real files: the log and the correction sheets beside it are read
and written through the file system, the report goes to standard output, and the exit code is
the command's. An error the command does not handle is written to standard error and ends
the program with code 1. File names reach the file system as text, so a name whose bytes are
no UTF-8 counts as missing and cannot be written; in printed text a surrogate shows as U+FFFD.
-/

namespace RefereeGrading

/-- Code points as printable text, a surrogate shown as U+FFFD. -/
def printable (points : List Nat) : String :=
  String.ofList (points.map fun n => if Text.isSurrogate n then '\uFFFD' else Char.ofNat n)

/-- The file system as a workspace: a file that cannot be read counts as missing. -/
instance : Workspace IO where
  readFile? name := do
    match Text.decode? name with
    | none => return none
    | some path =>
      try
        let bytes ← IO.FS.readBinFile path
        return some bytes.toList
      catch _ =>
        return none
  writeFile name bytes := do
    match Text.decode? name with
    | none => throw (IO.userError "file name is no UTF-8")
    | some path => IO.FS.writeBinFile path (ByteArray.mk bytes.toArray)

end RefereeGrading

open RefereeGrading in
/-- Grades the automatic referees of the capture log named on the command line, reading the
log with the proto2 runtime. -/
def main (arguments : List String) : IO UInt32 := do
  match ← CommandLine.run Wire.proto2 "referee-grade" (arguments.map Text.pointsOf) with
  | .ok exit =>
    IO.print (printable exit.output)
    return exit.code.toUInt32
  | .error problem =>
    IO.eprintln (printable problem.message)
    return 1
