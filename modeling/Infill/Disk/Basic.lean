import Infill.Disk.Path
import Infill.Instant
import Infill.Text.Utf8

/-!
# Files

A disk holds files, directories and devices at locations.  On a flat disk a path names what has
been put under its components.  On a tree paths are followed from a working directory, step by
step through existing directories, and files are written only into existing directories.

Operations can be made to fail, and the disk has its own wording for why one has failed.  What fails
may have been begun: a file that could not be written to its end may hold something else than before.
-/

namespace Infill

/-- What can be done with a file. -/
inductive Operation
  | read
  | write
  | remove
  | size
  | modified
deriving DecidableEq, Repr

/-- Why an operation fails. -/
inductive Refusal
  /-- It has been made to fail. -/
  | broken
  /-- There is no such file. -/
  | absent
  /-- There is a directory. -/
  | directory
  /-- The path goes through something that is no directory. -/
  | notDirectory
  /-- The content is not UTF-8. -/
  | notText
  /-- A name on the path, or the path as a whole, is too long. -/
  | tooLong
deriving DecidableEq, Repr

/-- A file. -/
structure File where
  content : Bytes
  modified : Instant
deriving DecidableEq, Repr

/-- The operations that have been made to fail. -/
structure Faults where
  broken : List (Operation × Location) := []
  /-- What there is in place of a file when an operation on it has been made to fail. -/
  remains : Operation → Option File → Option File := fun _ file => file

/-- Files, directories and devices by location. -/
structure Disk where
  files : List (Location × File) := []
  directories : List Location := []
  devices : List Location := []
  faults : Faults := {}
  /-- The working directory of a tree; `none` on a flat disk. -/
  workingDirectory : Option Location := none
  wording : Operation → Path → Refusal → Text

namespace Disk

/-- The bytes that a name on a tree can have. -/
def nameLimit : Nat := 255

/-- The bytes that a path on a tree can have. -/
def pathLimit : Nat := 4095

/-- Follows the parts of a path on a tree from a location, which is kept last name first.  Every
part starts from a directory. -/
def follow (d : Disk) : (here : Location) → List Text → Except Refusal Location
  | here, [] => .ok here.reverse
  | here, part :: rest =>
    if here.reverse ∈ d.directories then
      match Path.component? part with
      | none => follow d here rest
      | some .up => follow d (if here = [.root] then here else here.tail) rest
      | some c =>
        if nameLimit < Utf8.size part then .error .tooLong else follow d (c :: here) rest
    else if here.reverse ∈ d.files.map (·.1) ∨ here.reverse ∈ d.devices then .error .notDirectory
    else .error .absent

/-- What a path names on the disk. -/
def locate (d : Disk) (p : Path) : Except Refusal Location :=
  match d.workingDirectory with
  | none => .ok p.location
  | some start =>
    if p.text = [] then .error .absent
    else if pathLimit < Utf8.size p.text then .error .tooLong
    else if Text.startsWith p.text ['/'] then d.follow [.root] (pieces '/' p.text)
    else d.follow start.reverse (pieces '/' p.text)

/-- The file at a location. -/
def fileAt? (d : Disk) (l : Location) : Option File :=
  (d.files.find? fun entry => entry.1 == l).map (·.2)

/-- The file that a path names. -/
def file? (d : Disk) (p : Path) : Option File :=
  match d.locate p with
  | .ok l => d.fileAt? l
  | .error _ => none

/-- Whether a path names a directory. -/
def isDirectory (d : Disk) (p : Path) : Bool :=
  match d.locate p with
  | .ok l => l ∈ d.directories
  | .error _ => false

/-- Whether a path names a file. -/
def isFile (d : Disk) (p : Path) : Bool := (d.file? p).isSome

/-- Whether a path names anything. -/
def isThere (d : Disk) (p : Path) : Bool :=
  match d.locate p with
  | .ok l => (d.fileAt? l).isSome || l ∈ d.directories || l ∈ d.devices
  | .error _ => false

/-- Whether an operation has been made to fail. -/
def isBroken (d : Disk) (op : Operation) (p : Path) : Bool := (op, p.location) ∈ d.faults.broken

/-- The location and the file that an operation is to work on. -/
def openFile (d : Disk) (op : Operation) (p : Path) : Except Refusal (Location × File) :=
  if d.isBroken op p then .error .broken
  else
    match d.locate p with
    | .error refusal => .error refusal
    | .ok l =>
      match d.fileAt? l with
      | some f => .ok (l, f)
      | none => .error (if l ∈ d.directories then .directory else .absent)

/-- Words the refusal of an operation. -/
def worded {α : Type} (d : Disk) (op : Operation) (p : Path) :
    Except Refusal α → Except Text α
  | .ok a => .ok a
  | .error refusal => .error (d.wording op p refusal)

/-- Whether a path names a device on a tree.  Nothing can be read from one, and what is written to
one is gone. -/
def isSilent (d : Disk) (p : Path) : Bool :=
  d.workingDirectory.isSome &&
    match d.locate p with
    | .ok l => l ∈ d.devices
    | .error _ => false

/-- The content of a file as text. -/
def read (d : Disk) (p : Path) : Except Text Text :=
  if d.isSilent p then .ok []
  else
    d.worded .read p <|
      match d.openFile .read p with
      | .error refusal => .error refusal
      | .ok (_, f) =>
        match Utf8.decode? f.content with
        | some t => .ok t
        | none => .error .notText

/-- The number of bytes in a file. -/
def size (d : Disk) (p : Path) : Except Text Nat :=
  d.worded .size p <|
    match d.openFile .size p with
    | .error refusal => .error refusal
    | .ok (_, f) => .ok f.content.length

/-- When a file was last written. -/
def modified (d : Disk) (p : Path) : Except Text Instant :=
  d.worded .modified p <|
    match d.openFile .modified p with
    | .error refusal => .error refusal
    | .ok (_, f) => .ok f.modified

/-- The disk without the file at a location. -/
def erase (d : Disk) (l : Location) : Disk :=
  { d with files := d.files.filter fun entry => entry.1 != l }

/-- The disk with a file put at a location. -/
def put (d : Disk) (l : Location) (f : File) : Disk :=
  { d.erase l with files := (l, f) :: (d.erase l).files }

/-- Why nothing can be written at a location of a tree. -/
def unwritable? (d : Disk) (l : Location) : Option Refusal :=
  if d.workingDirectory.isNone then none
  else if l ∈ d.directories then some .directory
  else if l.dropLast ∈ d.directories then none
  else some .absent

/-- Where a file of a path can be written. -/
def place (d : Disk) (p : Path) : Except Refusal Location :=
  match d.locate p with
  | .error refusal => .error refusal
  | .ok l =>
    match d.unwritable? l with
    | some refusal => .error refusal
    | none => .ok l

/-- The disk with what a failing operation leaves at a location. -/
def leave (d : Disk) (op : Operation) (l : Location) : Disk :=
  if d.faults.remains op (d.fileAt? l) = d.fileAt? l then d
  else
    match d.faults.remains op (d.fileAt? l) with
    | some f => d.put l f
    | none => d.erase l

/-- The disk after an operation on a path has failed.  Only what has been made to fail can have been
begun. -/
def afterFailing (d : Disk) (op : Operation) (p : Path) : Disk :=
  match d.place p with
  | .ok l => if d.isBroken op p then d.leave op l else d
  | .error _ => d

/-- Removes a file: the disk afterwards, and why the file has not been removed. -/
def remove (d : Disk) (p : Path) : Disk × Except Text Unit :=
  match d.openFile .remove p with
  | .error refusal => (d.afterFailing .remove p, .error (d.wording .remove p refusal))
  | .ok (l, _) => (d.erase l, .ok ())

/-- Writes a text to a file at an instant, in place of what the file held: the disk afterwards, and why
the text has not been written. -/
def write (d : Disk) (p : Path) (content : Text) (now : Instant) : Disk × Except Text Unit :=
  if d.isSilent p then (d, .ok ())
  else
    match if d.isBroken .write p then .error .broken else d.place p with
    | .error refusal => (d.afterFailing .write p, .error (d.wording .write p refusal))
    | .ok l => (d.put l { content := Utf8.encode content, modified := now }, .ok ())

end Disk

end Infill
