import Infill.Lookup
import Infill.Modifier.Chain
import Infill.Placeholder

/-!
# Filling lines

The placeholders of a line are replaced by their values, which data modifiers have been applied to,
and then the line modifiers of every placeholder act on the whole line in order.  A line is filled
in one dialect only: if it holds secrets, its references stay as they are.

The value of a setting can itself hold secrets, which are filled in.  Nothing else that a value
holds is looked at again.
-/

namespace Infill

variable [Pattern.Limit]

/-- The literal text in front of a placeholder, the text to put in its place, and its modifiers. -/
structure Filled where
  before : Text
  value : Text
  chain : Chain

/-- Fills one placeholder. -/
def fillHole (resolve : Target → Action Text) (hole : Text × Placeholder) : Action Filled := do
  let raw ← resolve hole.2.target
  let chain := Chain.parse hole.2.modifiers
  return { before := hole.1, value := chain.applyData raw, chain }

/-- Fills placeholders in order. -/
def fillHoles (resolve : Target → Action Text) : List (Text × Placeholder) → Action (List Filled)
  | [] => pure []
  | hole :: rest => do
    let filled ← fillHole resolve hole
    let more ← fillHoles resolve rest
    return filled :: more

/-- The line that filled placeholders make, with the line modifiers applied. -/
def assemble (filled : List Filled) (tail : Text) : Except Breach Text :=
  (filled.map (·.chain)).foldlM (fun line chain => chain.applyLine line)
    (Template.fill (filled.map fun f => (f.before, f.value)) tail)

/-- Fills the placeholders of a dialect in a line. -/
def fillLine (d : Dialect) (resolve : Target → Action Text) (line : Text) : Action Text := do
  let template := Template.ofLine d line
  let filled ← fillHoles resolve template.holes
  Action.ofStep (assemble filled template.tail)

/-- The value that a placeholder names. -/
def resolvePlain : Target → Action Text
  | .secret path key => resolveSecret path key
  | .setting key => resolveReference key

/-- Fills the secrets in a line. -/
def fillSecrets (line : Text) : Action Text := fillLine .secret resolvePlain line

/-- The value that a placeholder names, with the secrets that a setting holds filled in. -/
def resolveDeep : Target → Action Text
  | .secret path key => resolveSecret path key
  | .setting key => do
    let value ← resolveReference key
    if Dialect.secret.occursIn value then fillSecrets value else return value

/-- Fills the references in a line. -/
def fillReferences (line : Text) : Action Text := fillLine .reference resolveDeep line

/-- Fills a line.  A comment is left alone. -/
def processLine (line : Text) : Action Text := do
  if isComment line then return line
  else if Dialect.secret.occursIn line then
    if Dialect.reference.occursIn line then Action.emit (.warning line)
    fillSecrets line
  else if Dialect.reference.occursIn line then fillReferences line
  else return line

end Infill
