import DesktopCapture.Launch
import DesktopCapture.Toml.Codec
import Std.Time.Format

/-!
# The command line

The outer layer of the preview tool.  It finds out what stands at the path of the
configuration file and whether log files can be kept, launches the tool on that,
and carries out what the launch decided: the file is written if it changed, and
every event goes to the standard output and to the log file of the day.
-/

namespace DesktopCapture
namespace Launch

/-- The directory of the log files. -/
def logDirectory : String := "./logs"

/-- The log file of a day. -/
def logPath (day : String) : String := logDirectory ++ "/duplicator-preview.log." ++ day

/-- What stands at the path of the configuration file. -/
def findPlace : IO Place := do
  try
    return .file (← IO.FS.readBinFile configPath).toList
  catch
    | .noFileOrDirectory .. => return .vacant
    | _ => return .directory

/-- Whether there is a directory for log files, which is made if it is missing. -/
def prepareLogs : IO Bool := do
  try
    IO.FS.createDirAll logDirectory
    return true
  catch _ => return false

/-- Bring the configuration file from one state to another. -/
def keepPlace (before after : Place) : IO Unit := do
  if before ≠ after then
    match after.content? with
    | some octets => IO.FS.writeBinFile configPath (ByteArray.mk octets.toArray)
    | none => return

/-- Log one event. -/
def log (event : Event) : IO Unit := do
  let now := Std.Time.DateTime.ofTimestamp (← Std.Time.Timestamp.now) .UTC
  let line := now.format "uuuu-MM-dd'T'HH:mm:ss.SSSSSS'Z'" ++ " " ++ event.alignedRecord
  IO.println line
  IO.FS.withFile (logPath (now.format "uuuu-MM-dd")) .append fun file => file.putStrLn line

/-- Carry out a launch and give the status of the process. -/
def carryOut (arguments : List String) : IO UInt32 := do
  let before ← findPlace
  let (ending, after) := Launch.run Toml.codec ⟨arguments, before, ← prepareLogs⟩
  keepPlace before after
  match ending with
  | .withoutLog =>
    IO.eprintln ("Cannot keep log files in " ++ logDirectory)
    return 101
  | .finished events =>
    events.forM log
    return 0

end Launch
end DesktopCapture

/-- The preview tool. -/
def main (arguments : List String) : IO UInt32 :=
  DesktopCapture.Launch.carryOut arguments
