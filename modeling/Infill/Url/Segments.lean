import Infill.Url.Basic

/-!
# Segments of a path

A path is walked from the left: a segment `.` goes nowhere and `..` goes back over the segment
before it, unless that is a drive letter.  If the walk ends with one of them, an empty segment
follows.
-/

namespace Infill.Url

/-- Whether a segment stands for the directory itself. -/
def isSingleDot (s : Text) : Bool := [".".toList, "%2e".toList].contains (s.map Text.lowerAscii)

/-- Whether a segment stands for the directory above. -/
def isDoubleDot (s : Text) : Bool :=
  ["..".toList, ".%2e".toList, "%2e.".toList, "%2e%2e".toList].contains (s.map Text.lowerAscii)

/-- Whether a segment is a letter and a colon or a bar. -/
def isDriveLetter : Text → Bool
  | [letter, mark] => Text.isLetter letter && (mark == ':' || mark == '|')
  | _ => false

/-- Whether a segment starts with a drive letter and ends there or goes on with a backslash. -/
def holdsDrive : Text → Bool
  | letter :: mark :: rest =>
    isDriveLetter [letter, mark] && (rest.isEmpty || rest.head? == some '\\')
  | _ => false

/-- The segments without the last one, unless it is a drive letter. -/
def goBack (done : List Text) : List Text :=
  match done.getLast? with
  | some last => if holdsDrive last then done else done.dropLast
  | none => []

/-- A segment of a file path: a drive letter at the start is written with a colon. -/
def settled (isFile : Bool) (done : List Text) (s : Text) : Text :=
  if isFile && done.isEmpty && isDriveLetter s then s.take 1 ++ [':'] else s

/-- The segments behind `done` when only one more follows. -/
def lastStep (isFile : Bool) (done : List Text) (s : Text) : List Text :=
  if isDoubleDot s then goBack done ++ [[]]
  else if isSingleDot s then done ++ [[]]
  else done ++ [settled isFile done s]

/-- Walks the segments behind `done`. -/
def walk (isFile : Bool) (done : List Text) : List Text → List Text
  | [] => done
  | [s] => lastStep isFile done s
  | s :: rest =>
    if isDoubleDot s then walk isFile (goBack done) rest
    else if isSingleDot s then walk isFile done rest
    else walk isFile (done ++ [settled isFile done s]) rest

/-- The segments of a file path without empty ones at the start. -/
def withoutLeadingEmpty (isFile : Bool) (segments : List Text) : List Text :=
  if isFile then
    match segments.dropWhile (· == []) with
    | [] => [[]]
    | rest => rest
  else segments

/-- The segments of a path without the slash at its start.  A backslash is a slash in a special
URL. -/
def segmentsOf (special isFile : Bool) (t : Text) : List Text :=
  let t := if special then t.map fun c => if c == '\\' then '/' else c else t
  withoutLeadingEmpty isFile (walk isFile [] ((pieces '/' t).map (escape escapedInPath)))

/-- Whether a character is dropped from a URL wherever it stands. -/
def isDropped (c : Char) : Bool := c == '\t' || c == '\n' || c == '\r'

/-- The segments with another one behind them, in place of the only one if that is empty. -/
def withSegment (special isFile : Bool) (segments : List Text) (s : Text) : List Text :=
  let done := if segments = [[]] then [] else segments
  let s := escape (escapedInSegment special) (s.filter fun c => !isDropped c)
  withoutLeadingEmpty isFile (lastStep isFile done s)

/-- The segments without an empty one at the end. -/
def withoutEmptyEnd (segments : List Text) : List Text :=
  if 2 ≤ segments.length && segments.getLast? == some [] then segments.dropLast else segments

/-- Adds segments to the path of a URL, in place of an empty one at its end.  Segments that are `.`
or `..` are left out.  A URL whose path has no segments has no such URL. -/
def extend? (u : Url) (segments : List Text) : Option Url :=
  match u.trail with
  | .plain _ => none
  | .segments parts =>
    let special := isSpecialScheme u.scheme
    let isFile := isFileScheme u.scheme
    let added := segments.filter fun s => s != ".".toList && s != "..".toList
    some { u with
      trail := .segments (added.foldl (withSegment special isFile) (withoutEmptyEnd parts)) }

end Infill.Url
