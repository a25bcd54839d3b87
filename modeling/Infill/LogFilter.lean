import Infill.Secret.Session
import Infill.Unicode.Property

/-!
# Log filters

A filter says which events are logged.  It is a list of directives with commas between them, each a
level, the name of a part of the program, or both with `=` between them; a name can be followed by
brackets with the name of a span or, in braces, that of a field.  The directive with the longest
name that the part in question starts with decides, one with a field before one without, and of
several that are alike the last.  Directives about spans, or about the value of a field, never concern the
events of this program.
-/

namespace Infill

/-- The levels of events, as the number of kinds that are logged. -/
abbrev LogLevel := Nat

/-- What a filter sees of an event. -/
structure LogEntry where
  /-- The name of the part of the program that it comes from. -/
  part : Text
  fields : List Text
  level : LogLevel
deriving DecidableEq, Repr

/-- A directive: the start of the name of the parts it is about, the field that their events need to
have, and their level. -/
structure LogDirective where
  target : Text := []
  field : Option Text := none
  level : LogLevel
  /-- Whether it is about spans or values only. -/
  ofSpan : Bool := false
deriving DecidableEq, Repr

namespace LogDirective

/-- Whether a directive is about an event. -/
def concerns (d : LogDirective) (e : LogEntry) : Bool :=
  !d.ofSpan && Text.startsWith e.part d.target && d.field.all e.fields.contains

/-- Whether a field is more special than another one. -/
def isFieldAbove : Option Text → Option Text → Bool
  | some a, some b => b < a
  | some _, none => true
  | none, _ => false

/-- Whether a directive is more special than another one about the same event. -/
def isAbove (a b : LogDirective) : Bool :=
  b.target.length < a.target.length ||
    (a.target.length == b.target.length && isFieldAbove a.field b.field)

end LogDirective

/-- The directives of a filter. -/
structure LogFilter where
  directives : List LogDirective
deriving DecidableEq, Repr

namespace LogFilter

/-- The level of errors and warnings. -/
def warnings : LogLevel := 2

/-- The level of everything. -/
def everything : LogLevel := 5

/-- The names of the levels. -/
def levelNames : List Text :=
  ["off".toList, "error".toList, "warn".toList, "info".toList, "debug".toList, "trace".toList]

/-- The level with a name or a number. -/
def level? (t : Text) : Option LogLevel :=
  match levelNames.idxOf? (t.map Text.lowerAscii) with
  | some n => some n
  | none =>
    (Text.natOfDigits? 10 ((afterLead? ['+'] t).getD t)).filter (· ≤ everything)

/-- Letters and numbers. -/
def alphanumeric : Unicode.CharSet := Unicode.alphabetic.union (Unicode.categorySet "N")

/-- Whether the name in a directive can start with a character. -/
def startsName (c : Char) : Bool := c == '-' || c == ':' || c == '_' || alphanumeric.has c

/-- The level behind `=`. -/
def levelBehind? (t : Text) : Option LogLevel := if t = [] then some everything else level? t

/-- The level behind brackets. -/
def levelAfterSpan? : Text → Option LogLevel
  | [] => some everything
  | '=' :: level => levelBehind? level
  | _ => none

/-- Reads what is in brackets and behind them. -/
def spanDirective? (target t : Text) : Option LogDirective :=
  let span := t.takeWhile fun c => c != ']' && c != '\x7b'
  match t.drop span.length with
  | ']' :: rest => (levelAfterSpan? rest).map fun level => { target, level, ofSpan := true }
  | '\x7b' :: inner =>
    let field := inner.takeWhile (· != '\x7d')
    if field = [] then none
    else
      match afterLead? ['\x7d', ']'] (inner.drop field.length) with
      | none => none
      | some rest =>
        (levelAfterSpan? rest).map fun level =>
          { target, field := some field, level, ofSpan := span != [] || field.contains '=' }
  | _ => none

/-- Reads a directive.  Where its parts are is looked for without the blanks around it, but counted
from its start with them. -/
def directive? (t : Text) : Option LogDirective :=
  let shown := Text.trim t
  let isStarted := shown.head?.any fun c => c == '[' || startsName c
  let name := shown.takeWhile fun c => c != '=' && c != '['
  if !isStarted then none
  else
    match shown.drop name.length with
    | '=' :: _ =>
      (levelBehind? (t.drop (name.length + 1))).map fun level =>
        { target := t.take name.length, level }
    | '[' :: rest => spanDirective? (t.take name.length) rest
    | _ =>
      match level? t with
      | some level => some { level }
      | none => some { target := t, level := everything }

/-- Reads a filter. -/
def parse? (t : Text) : Option LogFilter :=
  (((pieces ',' t).filter (· != [])).mapM directive?).map fun directives => { directives }

/-- The filter of a program that has not been given one. -/
def standard : LogFilter := { directives := [{ level := warnings }] }

/-- The variable that holds the filter. -/
def variableName : Text := "RUST_LOG".toList

/-- The filter of an environment. -/
def ofEnvironment (e : Environment) : LogFilter :=
  ((e.get? variableName).bind parse?).getD standard

/-- The directive that decides about an event: of those that concern it, the last that no other one
is above. -/
def deciding? (f : LogFilter) (e : LogEntry) : Option LogDirective :=
  (f.directives.filter (·.concerns e)).foldl (fun best d =>
    match best with
    | none => some d
    | some b => if b.isAbove d then some b else some d) none

/-- Whether an event is logged. -/
def admits (f : LogFilter) (e : LogEntry) : Bool := (f.deciding? e).any fun d => e.level ≤ d.level

end LogFilter

end Infill
