import Infill.Disk.Basic

/-!
# Trees

The disk of a real machine: its files are in directories, paths are followed from the working
directory, and the wording of a refusal says what was to be done and gives the number of the cause.
-/

namespace Infill

/-- What has not been done. -/
def Operation.complaint : Operation → Text
  | .read => "Failed to read file: ".toList
  | .write => "Failed to write file: ".toList
  | .remove => "Failed to remove file: ".toList
  | .size => "Failed to read metadata: ".toList
  | .modified => "Failed to read modification time: ".toList

/-- The wording of a cause. -/
def Refusal.cause : Refusal → Text
  | .broken => "Input/output error (os error 5)".toList
  | .absent => "No such file or directory (os error 2)".toList
  | .directory => "Is a directory (os error 21)".toList
  | .notDirectory => "Not a directory (os error 20)".toList
  | .notText => "stream did not contain valid UTF-8".toList
  | .tooLong => "File name too long (os error 36)".toList

namespace Disk

/-- The wording of a refusal on a tree. -/
def treeWording (op : Operation) (p : Path) (r : Refusal) : Text :=
  op.complaint ++ p.quoted ++ ": ".toList ++ r.cause

/-- The directories that a location is in. -/
def ancestors (l : Location) : List Location :=
  (List.range (l.length - 1)).map fun n => l.take (n + 1)

/-- A tree with the given files, directories and devices, all at absolute locations, and the
directories these are in. -/
def tree (workingDirectory : Location) (files : List (Location × File))
    (directories devices : List Location) : Disk :=
  { files
    directories :=
      directories ++ workingDirectory :: ancestors workingDirectory ++
        (files.map (·.1) ++ directories ++ devices).flatMap ancestors
    devices
    workingDirectory := some workingDirectory
    wording := treeWording }

end Disk

/-- Where a path leads from a directory of a tree if every step leads somewhere. -/
def Path.locationFrom (p : Path) (start : Location) : Location :=
  let first : Location := if Text.startsWith p.text ['/'] then [.root] else start
  ((pieces '/' p.text).filterMap Path.component?).foldl (fun here c =>
    match c with
    | .up => if here = [.root] then here else here.dropLast
    | _ => here ++ [c]) first

end Infill
