import Infill.Descriptor
import Infill.DiagnosticLog
import Infill.Stream

/-!
# Runs

A run reads its descriptor, fills its input and writes the result.  Nothing is written before all of
the input has been filled.  The failure of a run is reported to the user and kept in the diagnostic
log; a run that is broken off has none.
-/

namespace Infill

variable [Pattern.Limit]

/-- Where the result of a run goes. -/
structure Sink where
  /-- How many of some bytes arrive before writing them fails, and why it fails. -/
  stops : Bytes → Option (Nat × Text)
  /-- Why bytes that have been written cannot be passed on. -/
  jams : Bytes → Option Text

namespace Sink

/-- A sink that takes everything. -/
def working : Sink := { stops := fun _ => none, jams := fun _ => none }

/-- A sink that nothing can be written to. -/
def closed (reason : Text) : Sink := { stops := fun _ => some (0, reason), jams := fun _ => none }

/-- A sink that cannot pass on what has been written. -/
def stuck (reason : Text) : Sink := { stops := fun _ => none, jams := fun _ => some reason }

/-- What arrives in a sink when bytes are written, and whether all of them do.  Where there is
nothing to write, nothing can fail in writing. -/
def write (sink : Sink) (bytes : Bytes) : Bytes × Except Text Unit :=
  if bytes = [] then ([], .ok ())
  else
    match sink.stops bytes with
    | some (count, reason) => (bytes.take count, .error reason)
    | none => (bytes, .ok ())

/-- Whether what has been written can be passed on. -/
def flush (sink : Sink) (written : Bytes) : Except Text Unit :=
  match sink.jams written with
  | some reason => .error reason
  | none => .ok ()

/-- Writes bytes and passes them on. -/
def deliver (sink : Sink) (bytes : Bytes) : Bytes × Except Text Unit :=
  match sink.write bytes with
  | (written, .error reason) => (written, .error reason)
  | (written, .ok ()) => (written, sink.flush written)

end Sink

/-- Why a run has failed. -/
inductive RunFailure
  | descriptor (path : Path) (failure : Failure)
  | stream (failure : Failure)
  | output (reason : Text)
deriving DecidableEq, Repr

namespace RunFailure

/-- The failure behind that of the run, unless it is in writing the result. -/
def failure? : RunFailure → Option Failure
  | descriptor _ f => some f
  | stream f => some f
  | output _ => none

/-- The wording of the failure of a run. -/
def report : RunFailure → Text
  | descriptor path f =>
    "Failed to load configuration file ".toList ++ path.quoted ++ ": ".toList ++ f.report
  | stream f => f.report
  | output reason => "Failed to write output: ".toList ++ reason

end RunFailure

/-- What has come of a run. -/
structure RunOutcome where
  result : Except (Stop RunFailure) Unit
  /-- What has arrived in the sink. -/
  written : Bytes
  events : List Event

/-- Runs with the descriptor at a path. -/
def execute (world : World) (descriptorPath : Path) (input : Input) (sink : Sink) : RunOutcome :=
  match Descriptor.load world.disk descriptorPath with
  | .error f =>
    { result := .error (.failure (.descriptor descriptorPath f)), written := [], events := [] }
  | .ok descriptor =>
    let outcome := processAll input { world, settingsPath := descriptor.kvFilePath } {}
    match outcome.result with
    | .error stop =>
      { result := .error (stop.map .stream), written := [], events := outcome.events }
    | .ok bytes =>
      match sink.deliver bytes with
      | (written, .ok ()) => { result := .ok (), written, events := outcome.events }
      | (written, .error reason) =>
        { result := .error (.failure (.output reason)), written, events := outcome.events }

/-- A message to the user. -/
inductive Notice
  | error (text : Text)
  | warning (text : Text)
  | remark (text : Text)
deriving DecidableEq, Repr

/-- Reports the failure of a run: the messages to the user and the disk with the log. -/
def reportFailure (log : DiagnosticLog) (disk : Disk) (failure : RunFailure) (now : Instant) :
    List Notice × Disk :=
  let message := failure.report
  match log.record disk message now with
  | (disk, .ok ()) =>
    ([.error message, .remark ("Details written to ".toList ++ log.path.text)], disk)
  | (disk, .error reason) =>
    ([.error message, .warning ("Could not write diagnostic log: ".toList ++ reason)], disk)

end Infill
