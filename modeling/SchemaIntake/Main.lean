import SchemaIntake.CommandLine.Commands
import SchemaIntake.Conversion.Uuid
import Std.Time.DateTime.Timestamp

/-!
# The program

The file system, the clock and the random numbers of the computer, and the program that the
commands make on top of them.  There is no parser of SQL: the command `parse` shows no nodes.
-/

namespace SchemaIntake

open Text

/-- The answer of an action, or a substitute if it fails. -/
def withSubstitute {α : Type} (action : IO α) (substitute : α) : IO α :=
  action.catchExceptions fun _ => pure substitute

/-- The file system of the computer. -/
def computerDisk : Disk IO where
  kind? path := withSubstitute (do
    let path := System.mkFilePath [String.ofList path]
    if ← path.isDir then return some .directory
    else if ← path.pathExists then return some .file
    else return none) none
  read? path := withSubstitute (do
    let bytes ← IO.FS.readBinFile (String.ofList path)
    return (String.fromUTF8? bytes).map String.toList) none
  names path := withSubstitute (do
    let entries ← (System.mkFilePath [String.ofList path]).readDir
    return entries.toList.map (·.fileName.toList)) []
  ancestors := withSubstitute (do
    let path ← IO.currentDir
    let names := (Path.components path.toString.toList).filter (!·.isEmpty)
    return Path.around names) []

/-- The time by the clock of the computer. -/
def currentMoment : IO Moment := do
  let now ← Std.Time.Timestamp.now
  return ⟨now.val.second.val, now.val.nano.val.toNat⟩

def randomId : IO Text := do
  let bytes ← IO.getRandomBytes 16
  return Uuid.ofBytes (bytes.toList.map (·.toNat))

end SchemaIntake

open SchemaIntake

def main (arguments : List String) : IO UInt32 := do
  let id ← randomId
  let settings := Settings.standard (← currentMoment) fun _ => id
  let output ← runArguments computerDisk SqlParser.none settings (arguments.map String.toList)
  IO.print (String.ofList output.out)
  IO.eprint (String.ofList output.err)
  return output.status.toUInt32
