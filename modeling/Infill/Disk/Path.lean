import Infill.Text.Quoted

/-!
# Paths

A path is kept as it was written.  Two paths name the same file if they have the same components:
repeated slashes, a slash at the end and `.` in the middle make no difference, but `.` at the
start does, and `..` is not resolved.
-/

namespace Infill

/-- A component of a path. -/
inductive Component
  | root
  | here
  | up
  | name (text : Text)
deriving DecidableEq, Repr

/-- A path as it was written. -/
structure Path where
  text : Text
deriving DecidableEq, Repr

/-- The components of a path, which say what it names. -/
abbrev Location := List Component

namespace Path

/-- The component a part between slashes stands for, when it is not the first. -/
def component? (part : Text) : Option Component :=
  if part = [] ∨ part = ['.'] then none
  else if part = ['.', '.'] then some .up
  else some (.name part)

/-- The components of a path. -/
def location (p : Path) : Location :=
  let parts := pieces '/' p.text
  let rest := parts.filterMap component?
  if Text.startsWith p.text ['/'] then .root :: rest
  else if parts.head? = some ['.'] then .here :: rest
  else rest

/-- The path of a file in the directory of this path. -/
def join (p : Path) (name : Text) : Path :=
  if Text.startsWith name ['/'] || p.text.isEmpty then { text := name }
  else if p.text.getLast? == some '/' then { text := p.text ++ name }
  else { text := p.text ++ '/' :: name }

/-- The last component, if it is a name. -/
def fileName? (p : Path) : Option Text :=
  match p.location.getLast? with
  | some (.name t) => some t
  | _ => none

/-- The path in quotes. -/
def quoted (p : Path) : Text := Text.quoted p.text

end Path

end Infill
