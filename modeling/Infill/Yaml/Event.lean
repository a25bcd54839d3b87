import Infill.Yaml.Token

/-!
# Documents

The tokens of a stream make up documents.  A document is kept as the events met on a walk through
it: a scalar, an alias, and the start and the end of every collection.

The tokens are read by a pushdown automaton, whose stack says what is expected next.

Anchors have numbers.  An anchor gets the number of different names that have been anchored before
it, an alias refers to the number that its name has at that place, and a number stands for the last
node that got it.
-/

namespace Infill.Yaml

/-- A scalar with its resolved tag. -/
structure Scalar where
  text : Text
  plain : Bool
  tag : Option Bytes := none
deriving DecidableEq, Repr

/-- A step of a walk through a document. -/
inductive Event
  | scalar (s : Scalar)
  | alias (number : Nat)
  | sequenceStart
  | mappingStart
  | collectionEnd
deriving DecidableEq, Repr

/-- What is expected next in a stream. -/
inductive Expected
  | content
  | documentEnd
  | node (block indentless : Bool)
  | blockItem
  | indentlessItem
  | blockKey
  | blockValue
  | flowItem (first : Bool)
  | flowPairKey
  | flowPairValue
  | flowPairEnd
  | flowKey (first : Bool)
  | flowValue (bare : Bool)
deriving DecidableEq, Repr

/-- A document that has been read up to a token. -/
structure Reader where
  tokens : List Token
  expected : List Expected
  /-- The tag handles with what they stand for. -/
  handles : List (Text × Bytes)
  /-- The events so far, last one first. -/
  events : List Event := []
  count : Nat := 0
  /-- The number of every anchored name. -/
  names : List (Text × Nat) := []
  /-- The numbers of anchors with the number of events before their nodes, last one first. -/
  anchored : List (Nat × Nat) := []

/-- A document: its events and, for the numbers of anchors, where their nodes start. -/
structure Document where
  events : List Event
  anchored : List (Nat × Nat)

namespace Reader

/-- Goes on to another expectation in the place of the current one. -/
def goto (r : Reader) (next : List Expected) : Reader :=
  { r with expected := next ++ r.expected.tail }

/-- Passes a token. -/
def pass (r : Reader) : Reader := { r with tokens := r.tokens.tail }

/-- Adds an event. -/
def emit (r : Reader) (e : Event) : Reader :=
  { r with events := e :: r.events, count := r.count + 1 }

/-- Adds a scalar for a node that is not there. -/
def emitEmpty (r : Reader) : Reader := r.emit (.scalar { text := [], plain := true })

/-- Gives the next event an anchor. -/
def anchorHere (r : Reader) : Option Text → Reader
  | none => r
  | some name =>
    let number := r.names.length
    { r with
      names := (name, number) :: r.names.filter (·.1 != name)
      anchored := (number, r.count) :: r.anchored }

/-- The tag that a handle and a suffix stand for. -/
def resolve (r : Reader) (t : TagName) : Except Fault Bytes :=
  if t.handle = [] then .ok t.suffix
  else
    match r.handles.find? (·.1 == t.handle) with
    | some (_, lead) => .ok (lead ++ t.suffix)
    | none => .error .tag

/-- Takes the anchor and the tag in front of a node, in either order. -/
def takeProperties (r : Reader) : Option Text × Option TagName × Reader :=
  match r.tokens with
  | .anchor name :: .tag t :: rest => (some name, some t, { r with tokens := rest })
  | .tag t :: .anchor name :: rest => (some name, some t, { r with tokens := rest })
  | .anchor name :: rest => (some name, none, { r with tokens := rest })
  | .tag t :: rest => (none, some t, { r with tokens := rest })
  | _ => (none, none, r)

/-- Reads the start of a node behind its anchor and tag. -/
def readContent (r : Reader) (block indentless : Bool) (anchor : Option Text)
    (tag : Option Bytes) : Except Fault Reader :=
  let starts (e : Event) (next : Expected) (r' : Reader) : Except Fault Reader :=
    .ok (((r'.anchorHere anchor).emit e).goto [next])
  match r.tokens with
  | .blockEntry :: _ =>
    if indentless then starts .sequenceStart .indentlessItem r
    else if anchor.isSome || tag.isSome then
      .ok (((r.anchorHere anchor).emit (.scalar { text := [], plain := true, tag })).goto [])
    else .error .content
  | .scalar text plain :: _ =>
    .ok (((r.pass.anchorHere anchor).emit (.scalar { text, plain, tag })).goto [])
  | .flowSequenceStart :: _ => starts .sequenceStart (.flowItem true) r.pass
  | .flowMappingStart :: _ => starts .mappingStart (.flowKey true) r.pass
  | token :: _ =>
    if block && token == .blockSequenceStart then starts .sequenceStart .blockItem r.pass
    else if block && token == .blockMappingStart then starts .mappingStart .blockKey r.pass
    else if anchor.isSome || tag.isSome then
      .ok (((r.anchorHere anchor).emit (.scalar { text := [], plain := true, tag })).goto [])
    else .error .content
  | [] =>
    if anchor.isSome || tag.isSome then
      .ok (((r.anchorHere anchor).emit (.scalar { text := [], plain := true, tag })).goto [])
    else .error .content

/-- Reads the start of a node. -/
def readNode (r : Reader) (block indentless : Bool) : Except Fault Reader :=
  match r.tokens with
  | .alias name :: _ =>
    match r.names.find? (·.1 == name) with
    | some (_, number) => .ok ((r.pass.emit (.alias number)).goto [])
    | none => .error .unknownAnchor
  | _ =>
    match r.takeProperties with
    | (anchor, none, r) => r.readContent block indentless anchor none
    | (anchor, some t, r) =>
      match r.resolve t with
      | .error fault => .error fault
      | .ok tag => r.readContent block indentless anchor (some tag)

/-- Reads an entry of a block sequence behind its dash. -/
def readItem (r : Reader) (again : Expected) (ends : List Token) : Except Fault Reader :=
  if r.tokens.head?.all ends.contains then .ok (r.emitEmpty.goto [again])
  else .ok (r.goto [.node true false, again])

/-- Expects a node in a block mapping, unless a key, a value or the end follows. -/
def readPart (r : Reader) (next : Expected) : Except Fault Reader :=
  if r.tokens.head?.all [.key, .value, .blockEnd].contains then .ok (r.emitEmpty.goto [next])
  else .ok (r.goto [.node true true, next])

/-- Expects a node in a flow collection, unless one of the tokens given follows. -/
def readFlowPart (r : Reader) (next : Expected) (ends : List Token) : Except Fault Reader :=
  if r.tokens.head?.all ends.contains then .ok (r.emitEmpty.goto [next])
  else .ok (r.goto [.node false false, next])

/-- Ends a collection with the token here. -/
def endHere (r : Reader) : Except Fault Reader := .ok ((r.pass.emit .collectionEnd).goto [])

/-- Passes the comma in front of an entry that is not the first one. -/
def passComma (r : Reader) (first : Bool) : Except Fault Reader :=
  if first then .ok r
  else if r.tokens.head? == some .flowEntry then .ok r.pass
  else .error .entry

/-- Reads an entry of a flow sequence, or its end. -/
def readFlowItem (r : Reader) (first : Bool) : Except Fault Reader :=
  if r.tokens.head? == some .flowSequenceEnd then r.endHere
  else
    match r.passComma first with
    | .error fault => .error fault
    | .ok r =>
      match r.tokens with
      | .key :: _ => .ok ((r.pass.emit .mappingStart).goto [.flowPairKey, .flowItem false])
      | .flowSequenceEnd :: _ => r.endHere
      | _ => .ok (r.goto [.node false false, .flowItem false])

/-- Reads a key of a flow mapping, or its end. -/
def readFlowKey (r : Reader) (first : Bool) : Except Fault Reader :=
  if r.tokens.head? == some .flowMappingEnd then r.endHere
  else
    match r.passComma first with
    | .error fault => .error fault
    | .ok r =>
      match r.tokens with
      | .key :: _ =>
        r.pass.readFlowPart (.flowValue false) [.value, .flowEntry, .flowMappingEnd]
      | .flowMappingEnd :: _ => r.endHere
      | _ => .ok (r.goto [.node false false, .flowValue true])

/-- Reads on as expected. -/
def step (r : Reader) (e : Expected) : Except Fault Reader :=
  match e with
  | .content =>
    match r.tokens with
    | [] => .ok (r.emitEmpty.goto [])
    | .directive _ :: _ => .ok (r.emitEmpty.goto [])
    | .documentStart :: _ => .ok (r.emitEmpty.goto [])
    | .documentEnd :: _ => .ok (r.emitEmpty.goto [])
    | _ => .ok (r.goto [.node true false])
  | .documentEnd =>
    let after := r.tokens.dropWhile (· == .documentEnd)
    if after = [] then .ok ({ r with tokens := [] }.goto []) else .error .severalDocuments
  | .node block indentless => r.readNode block indentless
  | .blockItem =>
    match r.tokens with
    | .blockEntry :: _ => r.pass.readItem .blockItem [.blockEntry, .blockEnd]
    | .blockEnd :: _ => r.endHere
    | _ => .error .entry
  | .indentlessItem =>
    match r.tokens with
    | .blockEntry :: _ =>
      r.pass.readItem .indentlessItem [.blockEntry, .key, .value, .blockEnd]
    | _ => .ok ((r.emit .collectionEnd).goto [])
  | .blockKey =>
    match r.tokens with
    | .key :: _ => r.pass.readPart .blockValue
    | .blockEnd :: _ => r.endHere
    | _ => .error .entry
  | .blockValue =>
    match r.tokens with
    | .value :: _ => r.pass.readPart .blockKey
    | _ => .ok (r.emitEmpty.goto [.blockKey])
  | .flowItem first => r.readFlowItem first
  | .flowPairKey =>
    match r.tokens with
    | .value :: _ => .ok (r.pass.emitEmpty.goto [.flowPairValue])
    | .flowEntry :: _ => .ok (r.pass.emitEmpty.goto [.flowPairValue])
    | .flowSequenceEnd :: _ => .ok (r.pass.emitEmpty.goto [.flowPairValue])
    | _ => .ok (r.goto [.node false false, .flowPairValue])
  | .flowPairValue =>
    match r.tokens with
    | .value :: _ => r.pass.readFlowPart .flowPairEnd [.flowEntry, .flowSequenceEnd]
    | _ => .ok (r.emitEmpty.goto [.flowPairEnd])
  | .flowPairEnd => .ok ((r.emit .collectionEnd).goto [])
  | .flowKey first => r.readFlowKey first
  | .flowValue bare =>
    if bare then .ok (r.emitEmpty.goto [.flowKey false])
    else
      match r.tokens with
      | .value :: _ => r.pass.readFlowPart (.flowKey false) [.flowEntry, .flowMappingEnd]
      | _ => .ok (r.emitEmpty.goto [.flowKey false])

/-- Reads on until nothing more is expected. -/
def run : (fuel : Nat) → Reader → Except Fault Reader
  | 0, _ => .error .content
  | fuel + 1, r =>
    match r.expected with
    | [] => .ok r
    | e :: _ =>
      match r.step e with
      | .error fault => .error fault
      | .ok r => run fuel r

end Reader

/-- The version and the tag handles that directives have given so far. -/
structure Preamble where
  versioned : Bool := false
  handles : List (Text × Bytes) := []

/-- Takes a directive in.  A document has one version, which is 1.1 or 1.2, and a handle has one
meaning. -/
def Preamble.take (p : Preamble) : Directive → Except Fault Preamble
  | .version major minor =>
    if p.versioned || major != 1 || (minor != 1 && minor != 2) then .error .directive
    else .ok { p with versioned := true }
  | .abbreviation handle lead =>
    if p.handles.any (·.1 == handle) then .error .directive
    else .ok { p with handles := p.handles ++ [(handle, lead)] }

/-- Takes the directives at the start of a stream. -/
def Preamble.ofTokens (p : Preamble) : List Token → Except Fault (Preamble × List Token)
  | .directive d :: rest =>
    match p.take d with
    | .error fault => .error fault
    | .ok p => p.ofTokens rest
  | tokens => .ok (p, tokens)

/-- The handles that need no directive. -/
def commonHandles : List (Text × Bytes) :=
  [(['!'], Utf8.encode ['!']), (['!', '!'], Utf8.encode "tag:yaml.org,2002:".toList)]

namespace Document

/-- Reads a document whose mark has been passed. -/
def ofTokensFrom (handles : List (Text × Bytes)) (start : Expected) (tokens : List Token) :
    Except Fault Document :=
  match Reader.run (8 * tokens.length + 8)
      { tokens, expected := [start, .documentEnd], handles := handles ++ commonHandles } with
  | .error fault => .error fault
  | .ok r => .ok { events := r.events.reverse, anchored := r.anchored }

/-- Reads the only document of a stream, if there is one.  A document behind directives needs its
mark. -/
def ofTokens (tokens : List Token) : Except Fault (Option Document) :=
  match Preamble.ofTokens {} tokens with
  | .error fault => .error fault
  | .ok (p, rest) =>
    match rest with
    | .documentStart :: rest => (ofTokensFrom p.handles .content rest).map some
    | [] => if tokens = [] then .ok none else .error .documentStart
    | _ =>
      if rest.length = tokens.length then
        (ofTokensFrom p.handles (.node true false) rest).map some
      else .error .documentStart

/-- Reads the only document of a text, if there is one. -/
def parse (t : Text) : Except Fault (Option Document) :=
  match Token.scan t with
  | .error fault => .error fault
  | .ok tokens => ofTokens tokens

/-- The events from the node on that the number of an anchor stands for. -/
def target (d : Document) (number : Nat) : List Event :=
  match d.anchored.find? (·.1 == number) with
  | some (_, before) => d.events.drop before
  | none => []

end Document

end Infill.Yaml
