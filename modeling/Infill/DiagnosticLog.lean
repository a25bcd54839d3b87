import Infill.Disk.Basic

/-!
# The diagnostic log

The last failure is kept in a file, where it can be found even if nobody has seen it on the
terminal.  A log that is more than a day old is removed.
-/

namespace Infill

/-- A log file. -/
structure DiagnosticLog where
  path : Path
deriving DecidableEq, Repr

namespace DiagnosticLog

/-- The age up to which a log is kept, in nanoseconds. -/
def greatestAge : Nat := 24 * 60 * 60 * 1000000000

/-- What is written to the log about a message at an instant. -/
def entry (message : Text) (now : Instant) : Text := now.rfc3339 ++ ' ' :: message ++ ['\n']

/-- Puts a message into the log, in place of what was there: the disk afterwards, and why the message
is not in the log. -/
def record (log : DiagnosticLog) (disk : Disk) (message : Text) (now : Instant) :
    Disk × Except Text Unit :=
  disk.write log.path (entry message now) now

/-- Whether the log is to be removed. -/
def isStale (log : DiagnosticLog) (disk : Disk) (now : Instant) : Except Text Bool :=
  if disk.isFile log.path then
    match disk.modified log.path with
    | .error reason => .error reason
    | .ok modified => .ok (greatestAge < modified.age now)
  else .ok false

/-- Removes the log if it has to be: the disk afterwards, and whether the log has been removed. -/
def prune (log : DiagnosticLog) (disk : Disk) (now : Instant) : Disk × Except Text Bool :=
  match log.isStale disk now with
  | .error reason => (disk, .error reason)
  | .ok false => (disk, .ok false)
  | .ok true =>
    match disk.remove log.path with
    | (disk, .error reason) => (disk, .error reason)
    | (disk, .ok ()) => (disk, .ok true)

end DiagnosticLog

end Infill
