import Infill.Base64
import Infill.Breach
import Infill.Pattern.Search

/-!
# Modifiers

A modifier transforms text.  Data modifiers act on the value of a placeholder before it is put
into its line; line modifiers act on the whole line afterwards.  This module says what each
modifier does; `Infill.Modifier.Chain` reads them.
-/

namespace Infill

variable [Pattern.Limit]

/-- A modifier. -/
inductive Modifier
  | base64
  | select (pattern : Text)
  | dict (key : Text)
  | default (value : Text)
  | indent (width : Nat)
deriving DecidableEq, Repr

/-- The first element of a comma-separated list that matches the pattern from end to end, without
the white space around it; the whole list when no element matches or the pattern is none. -/
def selectMatching (value pattern : Text) : Text :=
  match Pattern.compile (Pattern.anchored pattern) with
  | .error _ => value
  | .ok compiled =>
    (((pieces ',' value).map Text.trim).find? compiled.occursIn).getD value

/-- The value of a key in a comma-separated list of `key=value` entries; the whole list when no
entry has the key.  Of several entries the first counts, and entries without `=` do not count. -/
def dictLookup (value key : Text) : Text :=
  let entries := (pieces ',' value).filterMap (cutAt? (· == '='))
  match entries.find? fun entry => Text.trim entry.1 == key with
  | none => value
  | some entry => Text.trim entry.2

/-- The text with every line indented by exactly `width` spaces. -/
def Text.reindent (text : Text) (width : Nat) : Text :=
  Text.join ['\n'] ((Text.lines text).map fun line =>
    List.replicate width ' ' ++ Text.trimStart line)

/-- Indents every line of a text.  The spaces are made before the first line is looked at, and so they
have to fit into memory also if there is no line. -/
def indentLines (text : Text) (width : Nat) : Except Breach Text :=
  if width ≤ Text.longest then .ok (text.reindent width) else .error (.spaces width)

namespace Modifier

/-- Whether the modifier acts on the line and not on the value. -/
def isLine : Modifier → Bool
  | .indent _ => true
  | _ => false

/-- What the modifier makes of a value. -/
def applyData (value : Text) : Modifier → Text
  | .base64 => Base64.encode value
  | .select pattern => selectMatching value pattern
  | .dict key => dictLookup value key
  | .default fallback => fallback
  | .indent _ => value

/-- What the modifier makes of a line. -/
def applyLine (line : Text) : Modifier → Except Breach Text
  | .indent width => indentLines line width
  | _ => .ok line

end Modifier

end Infill
