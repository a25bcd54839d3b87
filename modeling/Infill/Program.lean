import Infill.CommandLine
import Infill.LogFilter
import Infill.Secret.Transport
import Infill.Terminal

/-!
# The program

One run of the program from its arguments to its exit code.
-/

namespace Infill

variable [Pattern.Limit]

/-- What the program is started with. -/
structure Launch where
  /-- The name it has been called by. -/
  program : Text
  arguments : List Text
  environment : Environment
  disk : Disk
  /-- The answers of the secret store. -/
  answer : Request → Except Text Response
  input : Input
  now : Instant
  /-- What is said about a step out of bounds. -/
  lastWords : Breach → Text

/-- What has come of the program. -/
structure Exit where
  code : Nat
  output : Bytes := []
  messages : Text := []
  disk : Disk

namespace Launch

/-- The variable that holds the directory for temporary files. -/
def temporaryDirectoryVariable : Text := "TMPDIR".toList

/-- The directory for temporary files. -/
def temporaryDirectory (l : Launch) : Path :=
  { text := (l.environment.get? temporaryDirectoryVariable).getD "/tmp".toList }

/-- The diagnostic log, which has the name of the program. -/
def log (l : Launch) : DiagnosticLog :=
  let name := (({ text := l.program } : Path).fileName?).getD CommandLine.programName
  { path := l.temporaryDirectory.join (name ++ ".log".toList) }

/-- The disk without a stale log. -/
def prunedDisk (l : Launch) : Disk := (l.log.prune l.disk l.now).1

/-- What a filter sees of a warning. -/
def warningEntry : LogEntry :=
  { part := "inline_replace::processor".toList
    fields := ["message".toList, "line".toList]
    level := LogFilter.warnings }

/-- Whether warnings are shown. -/
def showsWarnings (l : Launch) : Bool :=
  (LogFilter.ofEnvironment l.environment).admits warningEntry

/-- The exit code of a run that fails. -/
def failureCode : Nat := 1

/-- The exit code of a run that is broken off. -/
def brokenOffCode : Nat := 101

/-- Runs with a descriptor. -/
def runWith (l : Launch) (descriptor : Text) : Exit :=
  let disk := l.prunedDisk
  let world : World := { disk, environment := l.environment, answer := l.answer }
  let outcome := execute world { text := descriptor } l.input .working
  let warnings := if l.showsWarnings then Terminal.warningsText l.now outcome.events else []
  match outcome.result with
  | .ok () => { code := 0, output := outcome.written, messages := warnings, disk }
  | .error (.failure f) =>
    let (notices, disk) := reportFailure l.log disk f l.now
    { code := failureCode
      output := outcome.written
      messages := warnings ++ notices.flatMap Terminal.noticeText
      disk }
  | .error (.breach b) =>
    { code := brokenOffCode, output := outcome.written, messages := warnings ++ l.lastWords b, disk }

/-- Runs the program. -/
def run (l : Launch) : Exit :=
  match CommandLine.parse l.arguments with
  | .help => { code := 0, output := Utf8.encode CommandLine.helpText, disk := l.disk }
  | .version => { code := 0, output := Utf8.encode CommandLine.versionText, disk := l.disk }
  | .misused => { code := 2, messages := CommandLine.misuseText, disk := l.disk }
  | .run descriptor => l.runWith descriptor

end Launch

end Infill
