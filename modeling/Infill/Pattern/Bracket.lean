import Infill.Pattern.Escape

/-!
# Bracketed sets

A set in brackets is a sequence of characters, ranges, escapes, POSIX names and further brackets.
The operators `&&`, `--` and `~~` bind weaker than sequence and group from the left.  The reader
keeps the brackets and operators that are still open on a stack.
-/

namespace Infill.Pattern

open Infill.Unicode (CharSet)

/-- A sequence of members read so far: the set they make, how many they are, and how deep the
deepest of them is nested. -/
structure Members where
  set : CharSet := []
  count : Nat := 0
  depth : Nat := 0

/-- Adds a member of the given depth. -/
def Members.add (m : Members) (s : CharSet) (depth : Nat) : Members :=
  { set := m.set.union s, count := m.count + 1, depth := max m.depth depth }

/-- The depth of the sequence as one operand. -/
def Members.operandDepth (m : Members) : Nat := if 2 ≤ m.count then m.depth + 1 else m.depth

/-- An operator between sets. -/
inductive SetOp
  | inter
  | minus
  | exclusive

/-- What is still open around the members being read. -/
inductive Around
  /-- A bracket, with the members read before it. -/
  | bracket (before : Members) (negated : Bool)
  /-- An operator, with its left operand and the operand's depth. -/
  | operator (op : SetOp) (left : CharSet) (depth : Nat)

/-- The value of an operator under the flags. -/
def SetOp.apply (op : SetOp) (flags : Flags) (left right : CharSet) : CharSet :=
  let left := flags.fold left
  let right := flags.fold right
  match op with
  | .inter => left.inter right
  | .minus => left.minus right
  | .exclusive => left.exclusive right

/-- Closes the operator that stands before the members, if there is one. -/
def closeOperator (flags : Flags) (members : Members) (around : List Around) :
    CharSet × Nat × List Around :=
  match around with
  | .operator op left depth :: rest =>
    (op.apply flags left members.set, max depth members.operandDepth + 1, rest)
  | _ => (members.set, members.operandDepth, around)

/-- Reads a POSIX name behind `[`, such as `:alpha:]`. -/
def posixName? (flags : Flags) (t : Text) : Option (Except Fault CharSet × Text) :=
  match t with
  | ':' :: rest =>
    let (negated, rest) :=
      match rest with
      | '^' :: rest => (true, rest)
      | _ => (false, rest)
    let name := rest.takeWhile (· != ':')
    match afterLead? ":]".toList (rest.dropWhile (· != ':')), posixSet? name with
    | some after, some s => some (flags.negate negated (flags.fold s), after)
    | _, _ => none
  | _ => none

/-- The hyphens at the start, between which blanks may pass, and how many they are. -/
def hyphensOf (flags : Flags) : (fuel : Nat) → Text → Nat × Text
  | 0, t => (0, t)
  | fuel + 1, t =>
    match t with
    | '-' :: rest =>
      let (n, after) := hyphensOf flags fuel (flags.pass rest)
      (n + 1, after)
    | _ => (0, t)

/-- Reads the opening of a bracket behind `[`: whether it is negated, and the members that need no
escape because they come first. -/
def readOpening (flags : Flags) (t : Text) : Read (Members × Bool) :=
  let t := flags.pass t
  let (negated, t) :=
    match t with
    | '^' :: rest => (true, flags.pass rest)
    | _ => (false, t)
  let (hyphens, t) := hyphensOf flags t.length t
  let members : Members :=
    if hyphens = 0 then {} else { set := CharSet.single '-', count := hyphens }
  match t with
  | [] => .error .classUnclosed
  | ']' :: rest =>
    if hyphens = 0 then
      match flags.pass rest with
      | [] => .error .classUnclosed
      | rest => .ok ((({} : Members).add (CharSet.single ']') 0, negated), rest)
    else .ok ((members, negated), t)
  | _ => .ok ((members, negated), t)

/-- The first character behind the next one that is no blank.  Behind a comment, nothing is
skipped. -/
def peekPast (flags : Flags) (t : Text) : Option Char :=
  if flags.ignoreBlank then
    match t.dropWhile Text.isBlank with
    | [] => t.head?
    | '#' :: _ => t.head?
    | c :: _ => some c
  else t.head?

/-- Reads one character or escape of a bracket. -/
def readMember (flags : Flags) : Text → Read Primitive
  | [] => .error .classUnclosed
  | c :: rest => if c == '\\' then readEscape flags rest else .ok (.literal c false, rest)

/-- The character of a member that can end a range.  Where single bytes are matched, it has to be
ASCII. -/
def rangeEnd (flags : Flags) : Primitive → Except Fault Char
  | .literal c _ => if !flags.unicode && 0x80 ≤ c.toNat then .error .notText else .ok c
  | _ => .error .classRange

/-- The set of a member that is no range. -/
def memberSet (flags : Flags) : Primitive → Except Fault CharSet
  | .literal c _ =>
    if !flags.unicode && 0x80 ≤ c.toNat then .error .notText else .ok (CharSet.single c)
  | .members s => .ok s
  | .assertion _ => .error .classEscape

/-- Reads a member or a range of a bracket. -/
def readRange (flags : Flags) (t : Text) : Except Fault (CharSet × Text) := do
  let (first, rest) ← readMember flags t
  let rest := flags.pass rest
  match rest with
  | [] => .error .classUnclosed
  | '-' :: after =>
    if peekPast flags after == some ']' || peekPast flags after == some '-' then
      return (← memberSet flags first, rest)
    match flags.pass after with
    | [] => .error .classUnclosed
    | after =>
      let (last, rest) ← readMember flags after
      let low ← rangeEnd flags first
      let high ← rangeEnd flags last
      if low ≤ high then return ([(low.toNat, high.toNat)], rest) else .error .classRange
  | _ => return (← memberSet flags first, rest)

/-- Reads the rest of a bracket, given the members since the last opening or operator and what is
open around them.  The result is the set and its depth. -/
def readBracket (flags : Flags) : (fuel : Nat) → Members → List Around → Text →
    Read (CharSet × Nat)
  | 0, _, _, _ => .error .classUnclosed
  | fuel + 1, members, around, t =>
    let openOperator (op : SetOp) (rest : Text) :=
      let (left, depth, around) := closeOperator flags members around
      readBracket flags fuel {} (.operator op left depth :: around) rest
    match flags.pass t with
    | [] => .error .classUnclosed
    | '[' :: rest =>
      match posixName? flags rest with
      | some (.ok s, after) => readBracket flags fuel (members.add s 0) around after
      | some (.error fault, _) => .error fault
      | none =>
        match readOpening flags rest with
        | .ok ((first, negated), rest) =>
          readBracket flags fuel first (.bracket members negated :: around) rest
        | .error fault => .error fault
    | ']' :: rest =>
      let (inner, depth, around) := closeOperator flags members around
      match around with
      | .bracket before negated :: outer =>
        match flags.negate negated (flags.fold inner) with
        | .error fault => .error fault
        | .ok s =>
          match outer with
          | [] => .ok ((s, depth + 1), rest)
          | _ => readBracket flags fuel (before.add s (depth + 1)) outer rest
      | _ => .error .classUnclosed
    | '&' :: '&' :: rest => openOperator .inter rest
    | '-' :: '-' :: rest => openOperator .minus rest
    | '~' :: '~' :: rest => openOperator .exclusive rest
    | t =>
      match readRange flags t with
      | .ok (s, rest) => readBracket flags fuel (members.add s 0) around rest
      | .error fault => .error fault

/-- Reads a bracketed set behind its `[`. -/
def readSet (flags : Flags) (t : Text) : Read (CharSet × Nat) :=
  match readOpening flags t with
  | .ok ((first, negated), rest) =>
    readBracket flags (rest.length + 1) first [.bracket {} negated] rest
  | .error fault => .error fault

end Infill.Pattern
