import Infill.Pattern.Bracket

/-!
# Reading patterns

The reader takes one operator or operand after the other.  The groups that are still open wait on
a stack together with the alternatives and operands read before them.

`Pattern.ofText` also refuses patterns that are nested too deeply, and `Pattern.compile` those that there
is no room for.  How much room a pattern needs depends on how a matcher for it is built, which is left
open here.
-/

namespace Infill.Pattern

open Infill.Unicode (CharSet)

/-- A part of a pattern with its depth of nesting. -/
structure Operand where
  pattern : Pattern
  depth : Nat

/-- An entry of a sequence: an operand, or a change of flags, which nothing can repeat. -/
inductive Entry
  | operand (o : Operand)
  | directive

/-- The alternatives and entries of a group that have been read, last first. -/
structure Level where
  choices : List Operand := []
  entries : List Entry := []

/-- A reader's state: the flags in force, the innermost open group, the groups around it with the
flags to go back to, and the names given to groups. -/
structure Reader where
  flags : Flags := {}
  level : Level := {}
  around : List (Flags × Level) := []
  names : List Text := []

namespace Level

/-- The entries as one operand. -/
def sequence (l : Level) : Operand :=
  let operands := l.entries.reverse.filterMap fun entry =>
    match entry with
    | .operand o => some o
    | .directive => none
  { pattern := Pattern.sequence (operands.map (·.pattern))
    depth :=
      (operands.map (·.depth)).foldl max 0 + (if 2 ≤ l.entries.length then 1 else 0) }

/-- Ends an alternative. -/
def split (l : Level) : Level := { choices := l.sequence :: l.choices }

/-- The alternatives as one operand. -/
def close (l : Level) : Operand :=
  let choices := (l.sequence :: l.choices).reverse
  { pattern := Pattern.choice (choices.map (·.pattern))
    depth := (choices.map (·.depth)).foldl max 0 + (if 2 ≤ choices.length then 1 else 0) }

/-- Adds an entry. -/
def push (l : Level) (e : Entry) : Level := { l with entries := e :: l.entries }

end Level

namespace Reader

/-- Adds an operand. -/
def push (r : Reader) (p : Pattern) (depth : Nat) : Reader :=
  { r with level := r.level.push (.operand { pattern := p, depth }) }

/-- Opens a group under the given flags. -/
def openGroup (r : Reader) (flags : Flags) : Reader :=
  { r with flags, level := {}, around := (r.flags, r.level) :: r.around }

/-- Closes the innermost group. -/
def closeGroup (r : Reader) : Except Fault Reader :=
  match r.around with
  | [] => .error .groupUnopened
  | (flags, outer) :: around =>
    let inner := r.level.close
    .ok (Reader.push { r with flags, level := outer, around } inner.pattern (inner.depth + 1))

/-- Replaces the last operand by a repetition of it. -/
def repeatLast (r : Reader) (least : Nat) (most : Option Nat) : Except Fault Reader :=
  match r.level.entries with
  | .operand o :: entries =>
    .ok (Reader.push { r with level := { r.level with entries } }
      (Pattern.repeated least most o.pattern) (o.depth + 1))
  | _ => .error .nothingToRepeat

/-- Adds what a primitive stands for. -/
def pushPrimitive (r : Reader) : Primitive → Except Fault Reader
  | .literal c byte =>
    if byte && !r.flags.unicode && 0x80 ≤ c.toNat then .error .notText
    else .ok (r.push (.set (r.flags.literal c)) 0)
  | .members s => .ok (r.push (.set s) 0)
  | .assertion l => .ok (r.push (.look l) 0)

end Reader

/-- The rest behind one `?`, which makes a repetition prefer the other length. -/
def dropLazy : Text → Text
  | '?' :: rest => rest
  | t => t

/-- Reads a repetition in braces behind its `{`. -/
def readCounts (flags : Flags) (t : Text) : Except Fault ((Nat × Option Nat) × Text) := do
  let start := flags.pass t
  if start = [] then .error .repetition
  let (least, rest) ← readCount flags start
  match rest with
  | ',' :: rest =>
    match flags.pass rest with
    | [] => .error .repetition
    | '}' :: rest =>
      match least with
      | some least => return ((least, none), rest)
      | none => .error .repetition
    | rest =>
      let (most, rest) ← readCount flags rest
      match least, most, rest with
      | some least, some most, '}' :: rest =>
        if least ≤ most then return ((least, some most), rest) else .error .repetition
      | _, _, _ => .error .repetition
  | '}' :: rest =>
    match least with
    | some n => return ((n, some n), rest)
    | none => .error .repetition
  | _ => .error .repetition

/-- Whether a character can stand in the name of a group. -/
def isNameChar (first : Bool) (c : Char) : Bool :=
  c == '_' || Unicode.alphabetic.has c ||
    (!first && (c == '.' || c == '[' || c == ']' || (Unicode.categorySet "N").has c))

/-- Reads the name of a group up to its `>`. -/
def readName (names : List Text) (t : Text) : Read Text :=
  match cutAt? (· == '>') t with
  | none => .error .groupName
  | some (name, rest) =>
    match name with
    | [] => .error .groupName
    | c :: more =>
      if !isNameChar true c || !more.all (isNameChar false) then .error .groupName
      else if name ∈ names then .error .groupNameTwice
      else .ok (name, rest)

/-- Reads the letters of flags up to `:` or `)`.  `on` tells whether the letters turn flags on,
`seen` holds the letters so far. -/
def readFlags : (on : Bool) → (seen : Text) → Flags → Text → Read Flags
  | _, _, _, [] => .error .flags
  | on, seen, flags, c :: rest =>
    if c == ':' || c == ')' then
      if seen.head? == some '-' then .error .flags else .ok (flags, c :: rest)
    else if c ∈ seen then .error .flags
    else if c == '-' then readFlags false (c :: seen) flags rest
    else
      match flags.set? c on with
      | some flags => readFlags on (c :: seen) flags rest
      | none => .error .flags

/-- Reads what follows an opening parenthesis: the opening of a group, or a change of flags. -/
def readGroup (r : Reader) (t : Text) : Read Reader :=
  match r.flags.pass t with
  | '?' :: '=' :: _ => .error .lookAround
  | '?' :: '!' :: _ => .error .lookAround
  | '?' :: '<' :: '=' :: _ => .error .lookAround
  | '?' :: '<' :: '!' :: _ => .error .lookAround
  | '?' :: 'P' :: '<' :: rest => named rest
  | '?' :: '<' :: rest => named rest
  | '?' :: rest =>
    match readFlags true [] r.flags rest with
    | .error fault => .error fault
    | .ok (flags, ':' :: after) => .ok (r.openGroup flags, after)
    | .ok (flags, after) =>
      if rest.head? == some ')' then .error .nothingToRepeat
      else .ok ({ r with flags, level := r.level.push .directive }, after.drop 1)
  | rest => .ok (r.openGroup r.flags, rest)
where
  /-- Opens a named group. -/
  named (rest : Text) : Read Reader :=
    match readName r.names rest with
    | .error fault => .error fault
    | .ok (name, after) => .ok ({ r.openGroup r.flags with names := name :: r.names }, after)

/-- Reads the operator or operand that starts with `c`. -/
def readNext (r : Reader) (c : Char) (rest : Text) : Except Fault (Reader × Text) := do
  match c with
  | '(' => readGroup r rest
  | ')' => return (← r.closeGroup, rest)
  | '|' => return ({ r with level := r.level.split }, rest)
  | '[' =>
    let ((s, depth), rest) ← readSet r.flags rest
    return (r.push (.set s) depth, rest)
  | '?' => return (← r.repeatLast 0 (some 1), dropLazy rest)
  | '*' => return (← r.repeatLast 0 none, dropLazy rest)
  | '+' => return (← r.repeatLast 1 none, dropLazy rest)
  | '{' =>
    let ((least, most), rest) ← readCounts r.flags rest
    return (← r.repeatLast least most, dropLazy (r.flags.pass rest))
  | '\\' =>
    let (primitive, rest) ← readEscape r.flags rest
    return (← r.pushPrimitive primitive, rest)
  | '.' => return (r.push (.set (← r.flags.dot)) 0, rest)
  | '^' =>
    let l :=
      if !r.flags.multiLine then Look.start
      else if r.flags.returns then .lineStartReturn else .lineStart
    return (r.push (.look l) 0, rest)
  | '$' =>
    let l :=
      if !r.flags.multiLine then Look.stop
      else if r.flags.returns then .lineStopReturn else .lineStop
    return (r.push (.look l) 0, rest)
  | c => return (← r.pushPrimitive (.literal c false), rest)

/-- Reads the rest of a pattern. -/
def readAll : (fuel : Nat) → Reader → Text → Except Fault Operand
  | 0, _, _ => .error .tooLarge
  | fuel + 1, r, t =>
    match r.flags.pass t with
    | [] =>
      match r.around with
      | [] => .ok r.level.close
      | _ => .error .groupUnclosed
    | c :: rest =>
      match readNext r c rest with
      | .ok (r, rest) => readAll fuel r rest
      | .error fault => .error fault

/-- Reads a pattern. -/
def parse (source : Text) : Except Fault Operand := readAll (source.length + 1) {} source

/-- How deeply the parts of a pattern may be nested. -/
def depthLimit : Nat := 250

/-- The pattern written in a text. -/
def ofText (source : Text) : Except Fault Pattern :=
  match parse source with
  | .error fault => .error fault
  | .ok operand => if depthLimit < operand.depth then .error .tooDeep else .ok operand.pattern

/-- How much room there is for patterns. -/
class Limit where
  /-- Whether there is room for a matcher for the pattern that is written in a text. -/
  admits (source : Text) : Bool

/-- The pattern written in a text, if there is room for it. -/
def compile [Limit] (source : Text) : Except Fault Pattern :=
  match ofText source with
  | .error fault => .error fault
  | .ok p => if Limit.admits source then .ok p else .error .tooLarge

end Infill.Pattern
