import Infill.Line

/-!
# Filling streams

A stream is filled line by line; nothing comes of it unless every line succeeds.  A line feed ends a
line, and a carriage return before it is dropped.  A line that is not UTF-8 is copied byte by byte,
unless there is something to fill in it.
-/

namespace Infill

variable [Pattern.Limit]

/-- A stream that is read to its end, or to the point where reading fails. -/
structure Input where
  bytes : Bytes
  fault : Option Text := none
deriving DecidableEq, Repr

/-- The byte that ends a line. -/
def lineFeed : UInt8 := 10

/-- The byte that is dropped at the end of a line. -/
def carriageReturn : UInt8 := 13

namespace Input

/-- The lines of a stream.  What stands behind the last line feed is a line too, if it is not empty
and has been read to its end. -/
def lines (input : Input) : List Bytes :=
  let parts := pieces lineFeed input.bytes
  match parts.getLast? with
  | some [] => parts.dropLast
  | _ => if input.fault.isSome then parts.dropLast else parts

end Input

/-- A line without one carriage return at its end. -/
def chompReturn (line : Bytes) : Bytes :=
  if line.getLast? = some carriageReturn then line.dropLast else line

/-- Whether there is something to fill in a line. -/
def needsFilling (line : Text) : Bool :=
  !isComment line && (Dialect.secret.occursIn line || Dialect.reference.occursIn line)

/-- Copies a line that is not UTF-8. -/
def copyRaw (number : Nat) (raw : Bytes) : Action Bytes :=
  if needsFilling (Utf8.decodeLossy raw) then
    Action.fail (.invalidInput
      ("line ".toList ++ Text.decimal number ++
        " is not valid UTF-8 and contains a placeholder".toList))
  else return raw

/-- Fills a line of a stream. -/
def processRaw (number : Nat) (line : Bytes) : Action Bytes := do
  let raw := chompReturn line
  match Utf8.decode? raw with
  | some text => return Utf8.encode (← processLine text)
  | none => copyRaw number raw

/-- Fills the lines from the given number on. -/
def processLines (number : Nat) : List Bytes → Action Bytes
  | [] => pure []
  | line :: rest => do
    let filled ← processRaw number line
    let more ← processLines (number + 1) rest
    return filled ++ lineFeed :: more

/-- Fills a stream. -/
def processAll (input : Input) : Action Bytes := do
  let filled ← processLines 1 input.lines
  match input.fault with
  | some reason => Action.fail (.io reason)
  | none => return filled

end Infill
