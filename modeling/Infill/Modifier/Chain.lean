import Infill.Modifier.Basic
import Infill.Unicode.Category

/-!
# Chains of modifiers

The modifiers of a placeholder are written one after the other with `|` between them.  A token
that is no modifier is kept with the reason and has no effect.

An argument stands in parentheses after the name.  White space after the opening parenthesis and
before the closing one does not belong to it, nor does one quote character at either end; but an
argument has at least one character, and what would leave none stays in it.
-/

namespace Infill

variable [Pattern.Limit]

/-- Why a token is no modifier. -/
inductive Neglect
  | invalidPattern (fault : Pattern.Fault)
  | widthOutOfRange
  | malformed
  | unknown

/-- The wording of a reason. -/
def Neglect.message : Neglect → Text
  | .invalidPattern fault => "invalid select pattern: ".toList ++ fault.message
  | .widthOutOfRange => "indent width out of range".toList
  | .malformed => "malformed modifier".toList
  | .unknown => "unknown modifier".toList

/-- What has become of a token. -/
inductive ParsedModifier
  | recognized (modifier : Modifier)
  | ignored (token : Text) (reason : Neglect)

/-- The modifier that was recognized. -/
def ParsedModifier.modifier? : ParsedModifier → Option Modifier
  | .recognized m => some m
  | .ignored _ _ => none

namespace Argument

/-- Whether a character can stand around an argument. -/
def isQuote (c : Char) : Bool := c == '"' || c == '\''

/-- The argument at the start of a text that reaches to the closing parenthesis: the shortest
beginning, of one character at least, behind which there is at most one quote character and then
only white space.  An argument holds no line feed. -/
def shortest? (t : Text) : Option Text :=
  let core := Text.trimEnd t
  let length :=
    match core.getLast? with
    | some c => if isQuote c ∧ 2 ≤ core.length then core.length - 1 else core.length
    | none => 1
  let argument := t.take length
  if argument = [] ∨ '\n' ∈ argument then none else some argument

/-- The argument in the text between the parentheses. -/
def read? (inner : Text) : Option Text :=
  match Text.trimStart inner with
  | [] => (inner.reverse.find? (· != '\n')).map fun c => [c]
  | c :: rest =>
    if isQuote c then (shortest? rest).orElse fun _ => shortest? (c :: rest)
    else shortest? (c :: rest)

/-- The argument of a token that is `name`, white space, and an argument in parentheses. -/
def ofToken? (name token : Text) : Option Text :=
  match afterLead? name token with
  | none => none
  | some rest =>
    match Text.trimStart rest with
    | '(' :: inner =>
      match inner.getLast? with
      | some ')' => read? inner.dropLast
      | _ => none
    | _ => none

end Argument

namespace ParsedModifier

/-- The widths that fit into 64 bits. -/
def widthLimit : Nat := Nat.pow 2 64

/-- Reads the digits of an indent width.  Only ASCII digits make a number. -/
def ofWidth (token digits : Text) : ParsedModifier :=
  match Text.natOfDigits? 10 digits with
  | some width =>
    if width < widthLimit then .recognized (.indent width) else .ignored token .widthOutOfRange
  | none => .ignored token .widthOutOfRange

/-- The digits of a token that is `indent` and at least one decimal digit of any script. -/
def widthDigits? (token : Text) : Option Text :=
  match afterLead? "indent".toList token with
  | none => none
  | some digits =>
    if digits != [] && digits.all Unicode.decimalDigits.has then some digits else none

/-- The names that a malformed modifier starts with. -/
def names : List Text := ["select".toList, "dict".toList, "default".toList, "indent".toList]

/-- Reads one token. -/
def ofToken (token : Text) : ParsedModifier :=
  if token = "base64".toList then .recognized .base64
  else
    match Argument.ofToken? "select".toList token with
    | some pattern =>
      match Pattern.compile (Pattern.anchored pattern) with
      | .ok _ => .recognized (.select pattern)
      | .error fault => .ignored token (.invalidPattern fault)
    | none =>
      match Argument.ofToken? "dict".toList token with
      | some key => .recognized (.dict key)
      | none =>
        match Argument.ofToken? "default".toList token with
        | some value => .recognized (.default value)
        | none =>
          match widthDigits? token with
          | some digits => ofWidth token digits
          | none =>
            if names.any (Text.startsWith token) then .ignored token .malformed
            else .ignored token .unknown

end ParsedModifier

/-- The tokens of a chain of modifiers, in order. -/
structure Chain where
  parsed : List ParsedModifier

namespace Chain

/-- Reads a chain such as `| base64 | indent4`. -/
def parse (raw : Text) : Chain :=
  { parsed := (((pieces '|' raw).map Text.trim).filter (· != [])).map ParsedModifier.ofToken }

/-- The modifiers of a chain, in order. -/
def modifiers (chain : Chain) : List Modifier := chain.parsed.filterMap ParsedModifier.modifier?

/-- What the data modifiers make of a value, in order. -/
def applyData (chain : Chain) (value : Text) : Text :=
  (chain.modifiers.filter fun m => !m.isLine).foldl Modifier.applyData value

/-- What the line modifiers make of a line, in order. -/
def applyLine (chain : Chain) (line : Text) : Except Breach Text :=
  chain.modifiers.foldlM Modifier.applyLine line

end Chain

end Infill
