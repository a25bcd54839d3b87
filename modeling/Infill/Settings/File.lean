import Infill.Disk.Basic
import Infill.Failure
import Infill.Settings

/-!
# The settings on a disk

A key-value file has to be a regular file that is not empty.
-/

namespace Infill.Settings

/-- Why a file cannot be used before it is read. -/
def unusable? (disk : Disk) (path : Path) : Option Text :=
  if !disk.isThere path then some "file does not exist".toList
  else if disk.isDirectory path then some "path is a directory".toList
  else if !disk.isFile path then some "not a regular file".toList
  else
    match disk.size path with
    | .error reason => some reason
    | .ok size => if size = 0 then some "file is empty".toList else none

/-- Reads the settings in a file. -/
def load (disk : Disk) (path : Path) : Except Failure Settings :=
  match unusable? disk path with
  | some reason => .error (.sourceUnreadable path reason)
  | none =>
    match disk.read path with
    | .error reason => .error (.sourceUnreadable path reason)
    | .ok content =>
      match parse content with
      | .ok settings => .ok settings
      | .error fault => .error (.sourceUnreadable path fault.message)

end Infill.Settings
