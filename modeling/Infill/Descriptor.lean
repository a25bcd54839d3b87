import Infill.Disk.Basic
import Infill.Failure
import Infill.Yaml.Event

/-!
# The descriptor

The descriptor of a run is a YAML file.  All that counts in it is the field `kvFile`, which can also
be called `gitFileConf`: the name of the key-value file.
-/

namespace Infill

/-- What a descriptor says. -/
structure Descriptor where
  kvFile : Option Text := none
deriving DecidableEq, Repr

namespace Descriptor

/-- The key-value file of a descriptor that names none. -/
def defaultFile : Text := "cluster.ini".toList

/-- The names of the field. -/
def fieldNames : List Text := ["kvFile".toList, "gitFileConf".toList]

/-- The key-value file: the name without white space around it, if there is one. -/
def kvFilePath (d : Descriptor) : Path :=
  match d.kvFile with
  | none => { text := defaultFile }
  | some name =>
    if Text.trim name = [] then { text := defaultFile } else { text := Text.trim name }

/-- The ways to write that there is no value. -/
def isNull (t : Text) : Bool :=
  t == "~".toList || t == "null".toList || t == "Null".toList || t == "NULL".toList

/-- The tag of a value that is none. -/
def nullTag : Bytes := Utf8.encode "tag:yaml.org,2002:null".toList

/-- The text of a scalar, if it is not one of the ways to write that there is none. -/
def optionalText (s : Yaml.Scalar) : Except Yaml.Fault (Option Text) :=
  if !s.plain then .ok (some s.text)
  else
    match s.tag with
    | none => .ok (if s.text = [] || isNull s.text then none else some s.text)
    | some tag =>
      if tag != nullTag then .ok (some s.text)
      else if isNull s.text then .ok none
      else .error .content

/-- The scalar at the start of a walk, in the document or behind an alias. -/
def scalarAt (d : Yaml.Document) : List Yaml.Event → Except Yaml.Fault Yaml.Scalar
  | .scalar s :: _ => .ok s
  | .alias number :: _ =>
    match d.target number with
    | .scalar s :: _ => .ok s
    | _ => .error .content
  | _ => .error .content

/-- The rest of a walk behind a node, `depth` collections deep. -/
def afterNode : (depth : Nat) → List Yaml.Event → List Yaml.Event
  | _, [] => []
  | depth, e :: rest =>
    match e with
    | .sequenceStart => afterNode (depth + 1) rest
    | .mappingStart => afterNode (depth + 1) rest
    | .collectionEnd => if depth ≤ 1 then rest else afterNode (depth - 1) rest
    | _ => if depth = 0 then rest else afterNode depth rest

/-- Reads the entries of a mapping.  The field may come once only. -/
def readEntries (doc : Yaml.Document) : (fuel : Nat) → Option Descriptor → List Yaml.Event →
    Except Yaml.Fault Descriptor
  | 0, _, _ => .error .content
  | fuel + 1, found, events =>
    match events with
    | [] => .error .content
    | .collectionEnd :: _ => .ok (found.getD {})
    | _ :: value =>
      match scalarAt doc events with
      | .error fault => .error fault
      | .ok key =>
        if key.text ∈ fieldNames then
          match found, scalarAt doc value with
          | none, .ok s =>
            match optionalText s with
            | .ok kvFile => readEntries doc fuel (some { kvFile }) (afterNode 0 value)
            | .error fault => .error fault
          | none, .error fault => .error fault
          | some _, _ => .error .content
        else readEntries doc fuel found (afterNode 0 value)

/-- Reads a document, which has to be a mapping or empty. -/
def ofDocument (doc : Yaml.Document) : Except Yaml.Fault Descriptor :=
  match doc.events with
  | .mappingStart :: rest => readEntries doc (rest.length + 1) none rest
  | .scalar s :: _ => if s.plain && s.text = [] then .ok {} else .error .content
  | _ => .error .content

/-- Reads the text of a descriptor. -/
def parse (content : Text) : Except Failure Descriptor :=
  if Text.trim content = [] then .ok {}
  else
    let result : Except Yaml.Fault Descriptor :=
      match Yaml.Document.parse content with
      | .error fault => .error fault
      | .ok none => .ok {}
      | .ok (some doc) => ofDocument doc
    match result with
    | .ok d => .ok d
    | .error fault => .error (.descriptorInvalid fault.message)

/-- Reads the descriptor in a file. -/
def load (disk : Disk) (path : Path) : Except Failure Descriptor :=
  match disk.read path with
  | .error reason => .error (.descriptorInvalid reason)
  | .ok content => parse content

end Descriptor

end Infill
