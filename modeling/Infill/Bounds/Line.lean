import Infill.Bounds.Reading
import Infill.Stream

/-!
# Filling by positions

A line is filled by positions: its placeholders are found as ranges of bytes, and the literal text
between them is cut out of the line.  The line modifiers act on what that gives.  Wherever one of
these steps is out of bounds, filling is broken off.
-/

namespace Infill.Guarded

variable [Pattern.Limit]

/-- The settings, which are loaded when they are needed for the first time. -/
def settings : Action Settings := fun site cache =>
  match cache.settings with
  | some s => { result := .ok s, cache, events := [] }
  | none =>
    match Settings.loadWithin site.world.disk site.settingsPath with
    | .error b => { result := .error (.breach b), cache, events := [] }
    | .ok (.ok s) => { result := .ok s, cache := { cache with settings := some s }, events := [] }
    | .ok (.error f) => { result := .error (.failure f), cache, events := [] }

/-- A setting, empty if it is not there. -/
def resolveReference (key : Text) : Action Text := do
  let s ← settings
  return (s.get? key).getD []

/-- The value that a placeholder names. -/
def resolvePlain : Target → Action Text
  | .secret path key => resolveSecret path key
  | .setting key => resolveReference key

/-- Fills placeholders in order.  `copied` is the byte up to which the line has been used; the result
is the text from there on, and the modifiers of the placeholders. -/
def fillFrom (resolve : Target → Action Text) (line : Text) (copied : Nat) :
    List Occurrence → Action (Text × List Chain)
  | [] => do
    let tail ← Action.ofStep (Utf8.part line copied (Utf8.size line))
    return (tail, [])
  | o :: rest => do
    let raw ← resolve o.placeholder.target
    let chain ← Action.ofStep (Chain.parseWithin o.placeholder.modifiers)
    let before ← Action.ofStep (Utf8.part line copied o.start)
    let (text, chains) ← fillFrom resolve line o.stop rest
    return (before ++ chain.applyData raw ++ text, chain :: chains)

/-- Fills the placeholders of a dialect in a line. -/
def fillLine (d : Dialect) (resolve : Target → Action Text) (line : Text) : Action Text := do
  let found ← Action.ofStep (d.findWithin line)
  let (text, chains) ← fillFrom resolve line 0 found
  Action.ofStep (chains.foldlM (fun line chain => chain.applyLine line) text)

/-- Fills the secrets in a line. -/
def fillSecrets (line : Text) : Action Text := fillLine .secret resolvePlain line

/-- The value that a placeholder names, with the secrets that a setting holds filled in. -/
def resolveDeep : Target → Action Text
  | .secret path key => resolveSecret path key
  | .setting key => do
    let value ← resolveReference key
    if Dialect.secret.occursIn value then fillSecrets value else return value

/-- Fills the references in a line. -/
def fillReferences (line : Text) : Action Text := fillLine .reference resolveDeep line

/-- Fills a line.  A comment is left alone. -/
def processLine (line : Text) : Action Text := do
  if isComment line then return line
  else if Dialect.secret.occursIn line then
    if Dialect.reference.occursIn line then Action.emit (.warning line)
    fillSecrets line
  else if Dialect.reference.occursIn line then fillReferences line
  else return line

end Infill.Guarded
