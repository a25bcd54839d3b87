import Infill.Text.Basic

/-!
# The command line

The program takes one argument, the path of its descriptor, and the options for help and for its
version, which are obeyed as soon as they are met.  Behind `--` nothing is an option any more.
-/

namespace Infill

/-- What the program is asked to do. -/
inductive CommandLine
  | run (descriptor : Text)
  | help
  | version
  /-- The arguments make no sense. -/
  | misused
deriving DecidableEq, Repr

namespace CommandLine

/-- The name of the program. -/
def programName : Text := "inline-replace".toList

/-- The answer to the option for the version. -/
def versionText : Text := programName ++ " 0.1.0\n".toList

/-- The answer to the option for help. -/
def helpText : Text :=
  "Resolve $".toList ++ ['{'] ++ " secret:path@key ".toList ++ ['}'] ++ " and $".toList ++ ['{'] ++
    " ref:KEY ".toList ++ ['}'] ++ " placeholders read from stdin\n\nUsage: ".toList ++
    programName ++ " <CONFIG>\n\nArguments:\n  <CONFIG>  ".toList ++
    "YAML descriptor; its `kvFile` field names the key-value file (default: cluster.ini)".toList ++
    "\n\nOptions:\n  -h, --help     Print help\n  -V, --version  Print version\n".toList

/-- The complaint about arguments that make no sense. -/
def misuseText : Text :=
  "error: invalid arguments\n\nUsage: ".toList ++ programName ++
    " <CONFIG>\n\nFor more information, try '--help'.\n".toList

/-- What the first letter of a group of options asks for. -/
def ofLetters : Text → CommandLine
  | 'h' :: _ => help
  | 'V' :: _ => version
  | _ => misused

/-- Reads the arguments.  `found` is the descriptor, if it has been met, and `plain` tells whether
`--` has been. -/
def read (found : Option Text) (plain : Bool) : List Text → CommandLine
  | [] =>
    match found with
    | some path => run path
    | none => misused
  | argument :: rest =>
    let operand : CommandLine :=
      if found.isSome || argument = [] then misused else read (some argument) plain rest
    if plain then operand
    else
      match argument with
      | ['-', '-'] => read found true rest
      | '-' :: '-' :: name =>
        if name = "help".toList then help
        else if name = "version".toList then version
        else misused
      | ['-'] => operand
      | '-' :: letters => ofLetters letters
      | _ => operand

/-- Reads the arguments of the program. -/
def parse (arguments : List Text) : CommandLine := read none false arguments

end CommandLine

end Infill
