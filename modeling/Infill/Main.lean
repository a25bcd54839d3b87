import Infill.Disk.Tree
import Infill.Pattern.Estimate
import Infill.Program
import Std.Time.DateTime.Timestamp

/-!
# The program on a machine

What a run depends on is gathered first; then the run is worked out, and what has come of it is
carried out.  No secret store can be reached from here.
-/

namespace Infill.Machine

open scoped Infill.Pattern.Estimate

/-- What has been found on the machine, by absolute location. -/
structure Findings where
  files : List (Location × File) := []
  directories : List Location := []
  devices : List Location := []

/-- The disk with what has been found. -/
def Findings.disk (f : Findings) (workingDirectory : Location) : Disk :=
  Disk.tree workingDirectory f.files f.directories f.devices

/-- The paths that are followed on the way to a path, and the path itself. -/
def pathsTo (p : Path) : List Path :=
  let parts := pieces '/' p.text
  let texts := (List.range parts.length).map fun n => Text.join ['/'] (parts.take (n + 1))
  (texts.filter (· != [])).map fun text => { text }

/-- The bytes of an array. -/
def bytesOf (a : ByteArray) : Bytes := a.toList

/-- The array of some bytes. -/
def arrayOf (b : Bytes) : ByteArray := { data := b.toArray }

/-- Looks at a path. -/
def look (workingDirectory : Location) (found : Findings) (p : Path) : IO Findings := do
  let place := p.locationFrom workingDirectory
  let path := (← IO.currentDir) / String.ofList p.text
  let .ok about ← path.metadata.toBaseIO | return found
  match about.type with
  | .dir => return { found with directories := place :: found.directories }
  | .file =>
    let .ok content ← (IO.FS.readBinFile path).toBaseIO | return found
    let modified := Instant.ofSeconds about.modified.sec about.modified.nsec.toNat
    let file : File := { content := bytesOf content, modified }
    return { found with files := (place, file) :: found.files }
  | _ => return { found with devices := place :: found.devices }

/-- Looks at some paths and all that is on the way to them. -/
def lookAll (workingDirectory : Location) (found : Findings) (paths : List Path) : IO Findings :=
  (paths.flatMap pathsTo).foldlM (look workingDirectory) found

/-- The variables that a run can depend on. -/
def variableNames : List Text :=
  [Session.hostVariable, Session.tokenVariable, LogFilter.variableName,
    Launch.temporaryDirectoryVariable]

/-- The environment of the program. -/
def environment : IO Environment := do
  let values ← variableNames.mapM fun name => do
    return (name, ← IO.getEnv (String.ofList name))
  return values.filterMap fun (name, value) => value.map fun v => (name, v.toList)

/-- The present. -/
def present : IO Instant := do
  return { nanos := (← Std.Time.Timestamp.now).toNanosecondsSinceUnixEpoch.val }

/-- The input of the program. -/
def input : IO Input := do
  match ← (← IO.getStdin).readBinToEnd.toBaseIO with
  | .ok content => return { bytes := bytesOf content }
  | .error reason => return { bytes := [], fault := some (toString reason).toList }

/-- The launch with the part of the disk that its run depends on. -/
def withDisk (launch : Launch) (descriptor : Text) : IO Launch := do
  let path : Path := { text := descriptor }
  let here := ({ text := (← IO.currentDir).toString.toList } : Path).location
  let found ← lookAll here {} [path, launch.log.path]
  let disk := found.disk here
  match Descriptor.load disk path with
  | .error _ => return { launch with disk }
  | .ok d => return { launch with disk := (← lookAll here found [d.kvFilePath]).disk here }

/-- Carries out what has become of the log. -/
def keepLog (path : Path) (before after : Disk) : IO Unit := do
  let name := String.ofList path.text
  match before.file? path, after.file? path with
  | some _, none => IO.FS.removeFile name
  | old, some new =>
    if old != some new then IO.FS.writeBinFile name (arrayOf new.content)
  | none, none => return

/-- Runs the program with some arguments, and gives its exit code. -/
def run (arguments : List Text) : IO UInt32 := do
  let idle : Launch :=
    { program := ((← IO.appPath).fileName.getD "").toList
      arguments
      environment := ← environment
      disk := Disk.tree [] [] [] []
      answer := Request.answerOffline
      input := { bytes := [] }
      now := ← present
      lastWords := fun _ => "capacity overflow\n".toList }
  let launch ←
    match CommandLine.parse arguments with
    | .run descriptor => withDisk { idle with input := ← input } descriptor
    | _ => pure idle
  let exit := launch.run
  keepLog launch.log.path launch.disk exit.disk
  (← IO.getStdout).write (arrayOf exit.output)
  (← IO.getStderr).putStr (String.ofList exit.messages)
  return UInt32.ofNat exit.code

end Infill.Machine

/-- The program. -/
def main (arguments : List String) : IO UInt32 :=
  Infill.Machine.run (arguments.map String.toList)
