import Infill.Yaml.Property

/-!
# Tokens

A YAML stream is cut into tokens.  In block collections the structure is in the indentation: a
token is put in wherever a collection starts or ends.

A key of a mapping need not be marked.  Anything that may turn out to be one is remembered with its
place among the tokens, and if a colon follows on the same line, within 1024 characters, the token
for a key is put in front of it.
-/

namespace Infill.Yaml

/-- A token of a stream. -/
inductive Token
  | directive (d : Directive)
  | documentStart
  | documentEnd
  | blockSequenceStart
  | blockMappingStart
  | blockEnd
  | flowSequenceStart
  | flowSequenceEnd
  | flowMappingStart
  | flowMappingEnd
  | blockEntry
  | flowEntry
  | key
  | value
  | alias (name : Text)
  | anchor (name : Text)
  | tag (name : TagName)
  | scalar (text : Text) (plain : Bool)
deriving DecidableEq, Repr

/-- Something that is a key if a colon follows. -/
structure SimpleKey where
  /-- Whether nothing else can stand there. -/
  required : Bool
  /-- The number of tokens before it. -/
  position : Nat
  line : Nat
  index : Nat
  column : Nat

/-- A stream that has been cut into tokens up to a place. -/
structure Lexer where
  cursor : Cursor
  /-- The tokens so far, last one first. -/
  tokens : List Token := []
  count : Nat := 0
  /-- The columns of the block collections under way, innermost first. -/
  indents : List Nat := []
  /-- Whether a key may start here. -/
  keyAllowed : Bool := true
  /-- What may be a key outside of flow collections. -/
  blockKey : Option SimpleKey := none
  /-- What may be a key in each flow collection under way, innermost first. -/
  flowKeys : List (Option SimpleKey) := []

namespace Lexer

/-- Whether a flow collection is under way. -/
def inFlow (s : Lexer) : Bool := !s.flowKeys.isEmpty

/-- The column of the innermost block collection. -/
def indent (s : Lexer) : Int :=
  match s.indents with
  | [] => -1
  | column :: _ => column

/-- Adds a token. -/
def add (s : Lexer) (t : Token) : Lexer :=
  { s with tokens := t :: s.tokens, count := s.count + 1 }

/-- Puts a token behind the first `position` tokens. -/
def insert (s : Lexer) (position : Nat) (t : Token) : Lexer :=
  let later := s.count - position
  { s with
    tokens := s.tokens.take later ++ t :: s.tokens.drop later
    count := s.count + 1 }

/-- Adds a token that is a number of characters long. -/
def addHere (s : Lexer) (length : Nat) (t : Token) : Lexer :=
  { s.add t with cursor := s.cursor.skip length }

/-- What may be a key in the innermost collection. -/
def candidate (s : Lexer) : Option SimpleKey :=
  match s.flowKeys with
  | [] => s.blockKey
  | key :: _ => key

/-- Sets what may be a key in the innermost collection. -/
def setCandidate (s : Lexer) (key : Option SimpleKey) : Lexer :=
  match s.flowKeys with
  | [] => { s with blockKey := key }
  | _ :: outer => { s with flowKeys := key :: outer }

/-- What is left of a possible key when the stream goes on at this place. -/
def outdate (c : Cursor) : Option SimpleKey → Except Fault (Option SimpleKey)
  | none => .ok none
  | some key =>
    if key.line < c.line || key.index + 1024 < c.index then
      if key.required then .error .simpleKey else .ok none
    else .ok (some key)

/-- Forgets the possible keys that are too far back. -/
def outdateAll (s : Lexer) : Except Fault Lexer := do
  let blockKey ← outdate s.cursor s.blockKey
  let flowKeys ← s.flowKeys.mapM (outdate s.cursor)
  return { s with blockKey, flowKeys }

/-- Gives up what may be a key in the innermost collection. -/
def dropKey (s : Lexer) : Except Fault Lexer :=
  match s.candidate with
  | none => .ok s
  | some key => if key.required then .error .simpleKey else .ok (s.setCandidate none)

/-- Remembers that what comes next may be a key. -/
def saveKey (s : Lexer) : Except Fault Lexer :=
  if s.keyAllowed then
    match s.dropKey with
    | .error fault => .error fault
    | .ok s =>
      let c := s.cursor
      .ok (s.setCandidate (some {
        required := !s.inFlow && s.indent == c.column
        position := s.count
        line := c.line, index := c.index, column := c.column }))
  else .ok s

/-- Starts a block collection if the column is deeper than the innermost one.  Its token goes
behind the first `position` tokens. -/
def openBlock (s : Lexer) (column position : Nat) (t : Token) : Lexer :=
  if !s.inFlow && s.indent < column then
    { s.insert position t with indents := column :: s.indents }
  else s

/-- Ends the innermost block collections of the columns given that are right of `column`. -/
def closeFrom (column : Int) : List Nat → Lexer → Lexer
  | [], s => s
  | deepest :: outer, s =>
    if column < deepest then closeFrom column outer { s.add .blockEnd with indents := outer }
    else s

/-- Ends the block collections right of a column. -/
def closeBlocks (s : Lexer) (column : Int) : Lexer :=
  if s.inFlow then s else closeFrom column s.indents s

/-- Goes to where the next token starts.  Tabs count as blanks only where no key can start. -/
def skipToToken : (fuel : Nat) → Lexer → Lexer
  | 0, s => s
  | fuel + 1, s =>
    let c := s.cursor
    let c := if c.column == 0 && c.at? '\uFEFF' then c.skip 1 else c
    let tabs := s.inFlow || !s.keyAllowed
    let c := c.skipWhile fun ch => ch == ' ' || (tabs && ch == '\t')
    let c := if c.at? '#' then c.skipWhile (fun ch => !isBreak ch) else c
    if (c.peek 0).any isBreak then
      skipToToken fuel { s with cursor := c.skipLine, keyAllowed := s.keyAllowed || !s.inFlow }
    else { s with cursor := c }

/-- Ends everything in front of a directive or the mark of a document. -/
def closeDocument (s : Lexer) : Except Fault Lexer :=
  match (s.closeBlocks (-1)).dropKey with
  | .error fault => .error fault
  | .ok s => .ok { s with keyAllowed := false }

/-- Reads a directive. -/
def readDirective (s : Lexer) : Except Fault Lexer := do
  let s ← s.closeDocument
  let (d, cursor) ← takeDirective s.cursor
  return { s.add (.directive d) with cursor }

/-- Reads the mark of a document. -/
def readDocumentMark (s : Lexer) (t : Token) : Except Fault Lexer := do
  let s ← s.closeDocument
  return s.addHere 3 t

/-- Reads the start of a flow collection, which may be a key as a whole. -/
def readFlowStart (s : Lexer) (t : Token) : Except Fault Lexer := do
  let s ← s.saveKey
  return { s.addHere 1 t with flowKeys := none :: s.flowKeys, keyAllowed := true }

/-- Reads the end of a flow collection. -/
def readFlowEnd (s : Lexer) (t : Token) : Except Fault Lexer := do
  let s ← s.dropKey
  return { s.addHere 1 t with flowKeys := s.flowKeys.tail, keyAllowed := false }

/-- Reads a comma. -/
def readFlowEntry (s : Lexer) : Except Fault Lexer := do
  let s ← s.dropKey
  return { s.addHere 1 .flowEntry with keyAllowed := true }

/-- Starts a block collection at a dash, a question mark or a colon, which have to stand where a
key may start. -/
def openHere (s : Lexer) (t : Token) : Except Fault Lexer :=
  if s.inFlow then .ok s
  else if s.keyAllowed then .ok (s.openBlock s.cursor.column s.count t)
  else .error .context

/-- Reads a dash. -/
def readBlockEntry (s : Lexer) : Except Fault Lexer := do
  let s ← s.openHere .blockSequenceStart
  let s ← s.dropKey
  return { s.addHere 1 .blockEntry with keyAllowed := true }

/-- Reads a question mark. -/
def readKey (s : Lexer) : Except Fault Lexer := do
  let s ← s.openHere .blockMappingStart
  let s ← s.dropKey
  return { s.addHere 1 .key with keyAllowed := !s.inFlow }

/-- Reads a colon, which makes a key of what has been remembered. -/
def readValue (s : Lexer) : Except Fault Lexer :=
  match s.candidate with
  | some key =>
    let s := s.insert key.position .key
    let s := s.openBlock key.column key.position .blockMappingStart
    .ok { (s.setCandidate none).addHere 1 .value with keyAllowed := false }
  | none =>
    match s.openHere .blockMappingStart with
    | .error fault => .error fault
    | .ok s => .ok { s.addHere 1 .value with keyAllowed := !s.inFlow }

/-- Reads an alias, an anchor or a tag. -/
def readProperty {α : Type} (s : Lexer) (take : Cursor → Read α) (token : α → Token) :
    Except Fault Lexer := do
  let s ← s.saveKey
  let (a, cursor) ← take s.cursor
  return { s.add (token a) with cursor, keyAllowed := false }

/-- Reads a block scalar. -/
def readBlockScalar (s : Lexer) (literal : Bool) : Except Fault Lexer := do
  let s ← s.dropKey
  let (text, cursor) ← takeBlock literal s.indent s.cursor
  return { s.add (.scalar text false) with cursor, keyAllowed := true }

/-- Reads a plain scalar.  A key may start behind it if a line end was passed. -/
def readPlain (s : Lexer) : Except Fault Lexer := do
  let s ← s.saveKey
  let ((text, broken), cursor) ← takePlain s.inFlow (s.indent + 1).toNat s.cursor
  return { s.add (.scalar text true) with cursor, keyAllowed := broken }

/-- Whether a plain scalar can start with `ch` when `next` follows. -/
def startsPlain (inFlow : Bool) (ch : Char) (next : Option Char) : Bool :=
  let indicators := "-?:,[]\x7b\x7d#&*!|>'\"%@`".toList
  if isBlank ch || isBreak ch then false
  else if ch == '-' then !next.any isBlank
  else if ch == '?' || ch == ':' then !inFlow && !isBlankOrEnd next
  else !indicators.contains ch

/-- Reads the token that starts with `ch`. -/
def readToken (s : Lexer) (ch : Char) : Except Fault Lexer :=
  let c := s.cursor
  let next := c.peek 1
  if c.column == 0 && ch == '%' then s.readDirective
  else if c.atDocumentMark then
    s.readDocumentMark (if ch == '-' then .documentStart else .documentEnd)
  else if ch == '[' then s.readFlowStart .flowSequenceStart
  else if ch == '{' then s.readFlowStart .flowMappingStart
  else if ch == ']' then s.readFlowEnd .flowSequenceEnd
  else if ch == '}' then s.readFlowEnd .flowMappingEnd
  else if ch == ',' then s.readFlowEntry
  else if ch == '-' && isBlankOrEnd next then s.readBlockEntry
  else if ch == '?' && (s.inFlow || isBlankOrEnd next) then s.readKey
  else if ch == ':' && (s.inFlow || isBlankOrEnd next) then s.readValue
  else if ch == '*' then s.readProperty takeAnchor .alias
  else if ch == '&' then s.readProperty takeAnchor .anchor
  else if ch == '!' then s.readProperty (takeTag s.inFlow) .tag
  else if ch == '|' && !s.inFlow then s.readBlockScalar true
  else if ch == '>' && !s.inFlow then s.readBlockScalar false
  else if ch == '\'' then s.readProperty (takeQuoted true) fun text => .scalar text false
  else if ch == '"' then s.readProperty (takeQuoted false) fun text => .scalar text false
  else if startsPlain s.inFlow ch next then s.readPlain
  else .error .token

/-- Reads the tokens up to the end of the stream. -/
def run : (fuel : Nat) → Lexer → Except Fault (List Token)
  | 0, _ => .error .token
  | fuel + 1, s =>
    match (skipToToken (s.cursor.rest.length + 1) s).outdateAll with
    | .error fault => .error fault
    | .ok s =>
      let s := s.closeBlocks s.cursor.column
      match s.cursor.peek 0 with
      | none =>
        match s.closeDocument with
        | .error fault => .error fault
        | .ok s => .ok s.tokens.reverse
      | some ch =>
        match s.readToken ch with
        | .error fault => .error fault
        | .ok s => run fuel s

end Lexer

/-- The stream without a byte order mark at its start. -/
def withoutMark (t : Text) : Text :=
  match t with
  | '\uFEFF' :: rest => rest
  | _ => t

/-- The tokens of a stream. -/
def Token.scan (t : Text) : Except Fault (List Token) :=
  let rest := withoutMark t
  if rest.all isPrintable then Lexer.run (rest.length + 1) { cursor := { rest } }
  else .error .character

end Infill.Yaml
