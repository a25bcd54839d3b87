import Infill.DiagnosticLog
import Infill.Proofs.Disk

/-!
# The diagnostic log over time

Messages are put into a log and the log is pruned, in any order and at instants in any order, and every
operation on a file can fail at any time.  What fails can have been begun, and then what is left of the
log is up to the disk.  Where failing operations change nothing (`LogStep.FailsCleanly`), what stands in
the log is what the last of these uses has left that has changed it; and in any case a use changes
nothing else (`log_holds_last_message`).
-/

namespace Infill

namespace Disk

/-- The disk at a time when other operations fail. -/
def withFaults (d : Disk) (faults : Faults) : Disk := { d with faults }

variable {d : Disk} {faults : Faults}

theorem withFaults_follow (here : Location) (parts : List Text) :
    (d.withFaults faults).follow here parts = d.follow here parts := by
  induction parts generalizing here with
  | nil => rfl
  | cons part parts ih =>
    simp only [follow, ih]
    rfl

@[simp]
theorem withFaults_locate (p : Path) : (d.withFaults faults).locate p = d.locate p := by
  simp only [locate, withFaults_follow]
  rfl

@[simp]
theorem withFaults_file? (p : Path) : (d.withFaults faults).file? p = d.file? p := by
  rw [file?, file?, withFaults_locate]
  rfl

@[simp]
theorem withFaults_isSilent (p : Path) : (d.withFaults faults).isSilent p = d.isSilent p := by
  rw [isSilent, isSilent, withFaults_locate]
  rfl

@[simp]
theorem withFaults_unwritable? (l : Location) :
    (d.withFaults faults).unwritable? l = d.unwritable? l := rfl

@[simp]
theorem withFaults_isBroken (op : Operation) (p : Path) :
    (d.withFaults faults).isBroken op p = decide ((op, p.location) ∈ faults.broken) := rfl

theorem AgreesOutside.withFaults {d' : Disk} {p : Path} (h : d'.AgreesOutside p d) :
    (d'.withFaults faults).AgreesOutside p (d.withFaults faults) where
  files l hl := h.files l (by rwa [withFaults_locate] at hl)
  directories := h.directories
  devices := h.devices
  faults := rfl
  workingDirectory := h.workingDirectory
  wording := h.wording

end Disk

namespace DiagnosticLog

variable {log : DiagnosticLog} {d : Disk} {message : Text} {now : Instant}

/-- The ways in which pruning comes out: the disk afterwards, and the answer. -/
inductive Pruned (log : DiagnosticLog) (d : Disk) (now : Instant) : Disk × Except Text Bool → Prop
  | absent (noFile : d.file? log.path = none) : Pruned log d now (d, .ok false)
  | ageless {f : File} (file : d.file? log.path = some f)
      (broken : d.isBroken .modified log.path = true) (reason : Text) :
      Pruned log d now (d, .error reason)
  | recent {f : File} (file : d.file? log.path = some f)
      (fine : d.isBroken .modified log.path = false)
      (young : now.nanos - f.modified.nanos ≤ greatestAge) : Pruned log d now (d, .ok false)
  | stuck {f : File} (file : d.file? log.path = some f)
      (fine : d.isBroken .modified log.path = false)
      (old : greatestAge < now.nanos - f.modified.nanos)
      (broken : d.isBroken .remove log.path = true) (reason : Text) :
      Pruned log d now (d.afterFailing .remove log.path, .error reason)
  | removed {f : File} {l : Location} (place : d.locate log.path = .ok l)
      (file : d.fileAt? l = some f) (fine : d.isBroken .modified log.path = false)
      (old : greatestAge < now.nanos - f.modified.nanos)
      (free : d.isBroken .remove log.path = false) : Pruned log d now (d.erase l, .ok true)

theorem pruned (log : DiagnosticLog) (d : Disk) (now : Instant) :
    Pruned log d now (log.prune d now) := by
  cases hfile : d.file? log.path with
  | none =>
    have hprune : log.prune d now = (d, .ok false) := by simp [prune, isStale, Disk.isFile, hfile]
    rw [hprune]
    exact .absent hfile
  | some f =>
    obtain ⟨l, hlocate, hfileAt⟩ := Disk.file?_eq_some_iff.mp hfile
    cases hmodified : d.isBroken .modified log.path with
    | true =>
      have hprune : log.prune d now = (d, .error (d.wording .modified log.path .broken)) := by
        simp [prune, isStale, Disk.isFile, hfile, Disk.modified,
          Disk.openFile_of_broken hmodified, Disk.worded]
      rw [hprune]
      exact .ageless hfile hmodified _
    | false =>
      have hopen := Disk.openFile_eq_ok_iff.mpr ⟨hmodified, hlocate, hfileAt⟩
      have hstale : log.isStale d now = .ok (greatestAge < f.modified.age now) := by
        simp [isStale, Disk.isFile, hfile, Disk.modified, hopen, Disk.worded]
      have hage : greatestAge < f.modified.age now ↔
          (greatestAge : Int) < now.nanos - f.modified.nanos := Int.lt_toNat
      by_cases hold : greatestAge < f.modified.age now
      · cases hremove : d.isBroken .remove log.path with
        | true =>
          have hprune : log.prune d now = (d.afterFailing .remove log.path,
              .error (d.wording .remove log.path .broken)) := by
            simp [prune, hstale, hold, Disk.remove, Disk.openFile_of_broken hremove]
          rw [hprune]
          exact .stuck hfile hmodified (hage.mp hold) hremove _
        | false =>
          have hopen' := Disk.openFile_eq_ok_iff.mpr ⟨hremove, hlocate, hfileAt⟩
          have hprune : log.prune d now = (d.erase l, .ok true) := by
            simp [prune, hstale, hold, Disk.remove, hopen']
          rw [hprune]
          exact .removed hlocate hfileAt hmodified (hage.mp hold) hremove
      · have hprune : log.prune d now = (d, .ok false) := by simp [prune, hstale, hold]
        rw [hprune]
        exact .recent hfile hmodified (Int.not_lt.mp (mt hage.mpr hold))

theorem greatestAge_eq : (greatestAge : Int) = 24 * 60 * 60 * 1000000000 := rfl

namespace Pruned

variable {r : Disk × Except Text Bool}

theorem removes_iff (h : Pruned log d now r) : r.2 = .ok true ↔
    ∃ f, d.file? log.path = some f ∧ 24 * 60 * 60 * 1000000000 < now.nanos - f.modified.nanos ∧
      d.isBroken .modified log.path = false ∧ d.isBroken .remove log.path = false := by
  rw [← greatestAge_eq]
  cases h with
  | absent noFile => simp [noFile]
  | ageless file broken => simp [broken]
  | recent file fine young => simp [file, Int.not_lt.mpr young]
  | stuck file fine old broken => simp [broken]
  | removed place file fine old free =>
    have hfile := Disk.file?_eq_some_iff.mpr ⟨_, place, file⟩
    simp [hfile, old, fine, free]

theorem fails_iff (h : Pruned log d now r) : (∃ reason, r.2 = .error reason) ↔
    ∃ f, d.file? log.path = some f ∧ (d.isBroken .modified log.path = true ∨
      24 * 60 * 60 * 1000000000 < now.nanos - f.modified.nanos ∧
        d.isBroken .remove log.path = true) := by
  rw [← greatestAge_eq]
  cases h with
  | absent noFile => simp [noFile]
  | ageless file broken => simp [file, broken]
  | recent file fine young => simp [file, fine, Int.not_lt.mpr young]
  | stuck file fine old broken => simp [file, old, broken]
  | removed place file fine old free =>
    have hfile := Disk.file?_eq_some_iff.mpr ⟨_, place, file⟩
    simp [hfile, fine, free]

/-- Pruning changes nothing but the log. -/
theorem agreesOutside (h : Pruned log d now r) : r.1.AgreesOutside log.path d := by
  cases h with
  | absent => exact .refl _ _
  | ageless => exact .refl _ _
  | recent => exact .refl _ _
  | stuck => exact Disk.agreesOutside_afterFailing d .remove log.path
  | removed place => exact Disk.agreesOutside_erase place

/-- Pruning that does not fail changes the log only by removing it. -/
theorem file?_of_ok {removed : Bool} (h : Pruned log d now r) (hok : r.2 = .ok removed) :
    r.1.file? log.path = if removed then none else d.file? log.path := by
  cases h with
  | absent => cases hok; rfl
  | ageless => contradiction
  | recent => cases hok; rfl
  | stuck => contradiction
  | removed place =>
    cases hok
    exact Disk.file?_erase_self place

end Pruned

end DiagnosticLog

/-- What is done with a log: a message is put into it, or it is pruned. -/
inductive LogUse
  | record (message : Text) (now : Instant)
  | prune (now : Instant)
deriving DecidableEq, Repr

/-- A use of a log at a time when some operations fail. -/
structure LogStep where
  use : LogUse
  faults : Faults

namespace LogStep

/-- Operations that fail change nothing: what has been begun is undone. -/
def FailsCleanly (step : LogStep) : Prop := ∀ op file, step.faults.remains op file = file

/-- The disk afterwards, and whether the log has been removed. -/
def attempt (log : DiagnosticLog) (d : Disk) (step : LogStep) : Disk × Except Text Bool :=
  match step.use with
  | .record message now =>
    let (after, answer) := log.record (d.withFaults step.faults) message now
    (after, answer.map fun _ => false)
  | .prune now => log.prune (d.withFaults step.faults) now

/-- Whether the log has been removed, or why the step has failed. -/
def answer (log : DiagnosticLog) (d : Disk) (step : LogStep) : Except Text Bool :=
  (step.attempt log d).2

/-- The disk afterwards. -/
def disk (log : DiagnosticLog) (d : Disk) (step : LogStep) : Disk := (step.attempt log d).1

end LogStep

namespace DiagnosticLog

/-- The disk after a sequence of steps. -/
def diskAfter (log : DiagnosticLog) (d : Disk) (steps : List LogStep) : Disk :=
  steps.foldl (LogStep.disk log) d

/-- What has been done in a sequence of steps, with the answers. -/
def answers (log : DiagnosticLog) : Disk → List LogStep → List (LogUse × Except Text Bool)
  | _, [] => []
  | d, step :: steps => (step.use, step.answer log d) :: log.answers (step.disk log d) steps

end DiagnosticLog

/-- The use has changed the log: it has put a message into it, or has removed it. -/
inductive LogUse.Changed : LogUse × Except Text Bool → Prop
  | recorded (message : Text) (now : Instant) : Changed (.record message now, .ok false)
  | removed (now : Instant) : Changed (.prune now, .ok true)

section Steps

variable {log : DiagnosticLog} {d : Disk} {step : LogStep} {message : Text} {now : Instant}

namespace LogStep

/-- The ways to take a step: the disk afterwards, and the answer. -/
inductive Taken (log : DiagnosticLog) (d : Disk) (step : LogStep) :
    Disk × Except Text Bool → Prop
  | recorded {message : Text} {now : Instant} {r : Disk × Except Text Unit}
      (use : step.use = .record message now)
      (written : (d.withFaults step.faults).Written log.path (DiagnosticLog.entry message now) now r) :
      Taken log d step (r.1, r.2.map fun _ => false)
  | pruned {now : Instant} {r : Disk × Except Text Bool} (use : step.use = .prune now)
      (pruned : log.Pruned (d.withFaults step.faults) now r) : Taken log d step r

theorem taken (log : DiagnosticLog) (d : Disk) (step : LogStep) :
    step.Taken log d (step.disk log d, step.answer log d) := by
  rw [answer, disk, attempt]
  cases huse : step.use with
  | record message now => exact .recorded huse (Disk.written _ _ _ _)
  | prune now => exact .pruned huse (DiagnosticLog.pruned _ _ _)

namespace Taken

variable {r : Disk × Except Text Bool}

theorem agreesOutside (h : step.Taken log d r) :
    r.1.AgreesOutside log.path (d.withFaults step.faults) := by
  cases h with
  | recorded use written => exact written.agreesOutside
  | pruned use pruned => exact pruned.agreesOutside

/-- What is left of the log when a step fails: all of it, or what the disk has been made to leave. -/
theorem file?_of_failed {reason : Text} (h : step.Taken log d r) (hfailed : r.2 = .error reason) :
    r.1.file? log.path = d.file? log.path ∨
      ∃ op, (op, log.path.location) ∈ step.faults.broken ∧
        r.1.file? log.path = step.faults.remains op (d.file? log.path) := by
  have hleft : ∀ failing,
      ((d.withFaults step.faults).afterFailing failing log.path).file? log.path = d.file? log.path ∨
      ∃ op, (op, log.path.location) ∈ step.faults.broken ∧
        ((d.withFaults step.faults).afterFailing failing log.path).file? log.path =
          step.faults.remains op (d.file? log.path) := by
    intro failing
    rcases Disk.file?_afterFailing (d.withFaults step.faults) failing log.path with
      hsame | ⟨hbroken, hleft⟩
    · exact Or.inl (hsame.trans (Disk.withFaults_file? log.path))
    · rw [Disk.withFaults_file?] at hleft
      exact Or.inr ⟨failing, by simpa using hbroken, hleft⟩
  cases h with
  | recorded use written =>
    cases written with
    | silent => contradiction
    | put => contradiction
    | refused => exact hleft .write
  | pruned use pruned =>
    cases pruned with
    | absent => contradiction
    | ageless => exact Or.inl (Disk.withFaults_file? log.path)
    | recent => contradiction
    | stuck => exact hleft .remove
    | removed => contradiction

theorem file?_of_failed_cleanly {reason : Text} (h : step.Taken log d r) (hclean : step.FailsCleanly)
    (hfailed : r.2 = .error reason) : r.1.file? log.path = d.file? log.path := by
  rcases h.file?_of_failed hfailed with hsame | ⟨op, -, hleft⟩
  · exact hsame
  · rw [hleft, hclean]

theorem file?_of_not_changed (h : step.Taken log d r) (hclean : step.FailsCleanly)
    (hchanged : ¬ LogUse.Changed (step.use, r.2)) : r.1.file? log.path = d.file? log.path := by
  cases hanswer : r.2 with
  | error reason => exact h.file?_of_failed_cleanly hclean hanswer
  | ok removed =>
    rw [hanswer] at hchanged
    cases h with
    | @recorded message now r use written =>
      rw [use] at hchanged
      cases hwritten : r.2 with
      | error reason =>
        rw [hwritten] at hanswer
        contradiction
      | ok _ =>
        rw [hwritten] at hanswer
        cases hanswer
        exact absurd (.recorded message now) hchanged
    | @pruned now _ use pruned =>
      cases removed with
      | false => exact (pruned.file?_of_ok hanswer).trans (Disk.withFaults_file? log.path)
      | true =>
        rw [use] at hchanged
        exact absurd (.removed now) hchanged

theorem file?_of_record (hsilent : d.isSilent log.path = false) (h : step.Taken log d r)
    (hanswer : r.2 = .ok false) (huse : step.use = .record message now) :
    r.1.file? log.path = some
      { content := Utf8.encode (DiagnosticLog.entry message now), modified := now } := by
  cases h with
  | @recorded _ _ r use written =>
    obtain ⟨rfl, rfl⟩ := LogUse.record.inj (use.symm.trans huse)
    refine written.file?_of_ok ?_ (by rwa [Disk.withFaults_isSilent])
    cases hwritten : r.2 with
    | error reason =>
      rw [hwritten] at hanswer
      contradiction
    | ok _ => rfl
  | pruned use => cases use.symm.trans huse

theorem file?_of_prune (h : step.Taken log d r) (hanswer : r.2 = .ok true) :
    r.1.file? log.path = none := by
  cases h with
  | @recorded _ _ r use written =>
    cases hwritten : r.2 with
    | error reason =>
      rw [hwritten] at hanswer
      contradiction
    | ok _ =>
      rw [hwritten] at hanswer
      cases hanswer
  | pruned use pruned => exact pruned.file?_of_ok hanswer

end Taken

/-- What one step does on a disk where the log is no device. -/
structure Sound (log : DiagnosticLog) (d : Disk) (step : LogStep) : Prop where
  /-- The log is removed if it is more than a day old and nothing is in the way. -/
  removes : ∀ now, step.use = .prune now → (step.answer log d = .ok true ↔
    ∃ f, d.file? log.path = some f ∧ 24 * 60 * 60 * 1000000000 < now.nanos - f.modified.nanos ∧
      (.modified, log.path.location) ∉ step.faults.broken ∧
      (.remove, log.path.location) ∉ step.faults.broken)
  /-- Pruning fails if the age cannot be told or the log cannot be removed. -/
  pruneFails : ∀ now, step.use = .prune now → ((∃ reason, step.answer log d = .error reason) ↔
    ∃ f, d.file? log.path = some f ∧ ((.modified, log.path.location) ∈ step.faults.broken ∨
      24 * 60 * 60 * 1000000000 < now.nanos - f.modified.nanos ∧
        (.remove, log.path.location) ∈ step.faults.broken))
  /-- A message is put into the log if there is a place for it and nothing is in the way. -/
  records : ∀ message now, step.use = .record message now →
    (step.answer log d = .ok false ↔ (.write, log.path.location) ∉ step.faults.broken ∧
      ∃ l, d.locate log.path = .ok l ∧ d.unwritable? l = none)
  recordFails : ∀ message now, step.use = .record message now → step.answer log d ≠ .ok false →
    ∃ reason, step.answer log d = .error reason
  /-- What fails leaves the log as it was, unless it has been begun. -/
  failure : ∀ reason, step.answer log d = .error reason →
    (step.disk log d).file? log.path = d.file? log.path ∨
      ∃ op, (op, log.path.location) ∈ step.faults.broken ∧
        (step.disk log d).file? log.path = step.faults.remains op (d.file? log.path)
  cleanFailure : step.FailsCleanly → ∀ reason, step.answer log d = .error reason →
    (step.disk log d).file? log.path = d.file? log.path
  otherFiles : ∀ path, d.locate path ≠ d.locate log.path →
    (step.disk log d).file? path = d.file? path

theorem answer_of_prune (h : step.use = .prune now) :
    step.answer log d = (log.prune (d.withFaults step.faults) now).2 := by
  rw [answer, attempt, h]

theorem answer_of_record (h : step.use = .record message now) :
    step.answer log d =
      (log.record (d.withFaults step.faults) message now).2.map fun _ => false := by
  rw [answer, attempt, h]

theorem sound (hsilent : d.isSilent log.path = false) (step : LogStep) : step.Sound log d where
  removes now huse := by
    rw [answer_of_prune huse, (DiagnosticLog.pruned _ _ _).removes_iff]
    simp
  pruneFails now huse := by
    rw [answer_of_prune huse, (DiagnosticLog.pruned _ _ _).fails_iff]
    simp
  records message now huse := by
    have hwrites := (Disk.written (d.withFaults step.faults) log.path
      (DiagnosticLog.entry message now) now).succeeds_iff (by rwa [Disk.withFaults_isSilent])
    simp only [Disk.withFaults_isBroken, decide_eq_false_iff_not, Disk.withFaults_locate,
      Disk.withFaults_unwritable?] at hwrites
    rw [answer_of_record huse, ← hwrites, DiagnosticLog.record]
    cases ((d.withFaults step.faults).write log.path (DiagnosticLog.entry message now) now).2 <;>
      simp [Except.map]
  recordFails message now huse hfails := by
    rw [answer_of_record huse] at hfails ⊢
    cases hrecord : (log.record (d.withFaults step.faults) message now).2 with
    | error reason => exact ⟨reason, rfl⟩
    | ok _ =>
      rw [hrecord] at hfails
      exact absurd rfl hfails
  failure reason hreason := (taken log d step).file?_of_failed hreason
  cleanFailure hclean reason hreason := (taken log d step).file?_of_failed_cleanly hclean hreason
  otherFiles path hpath := by
    have hagrees : (step.disk log d).AgreesOutside log.path (d.withFaults step.faults) :=
      (taken log d step).agreesOutside
    rw [hagrees.file?_eq (by simpa using hpath), Disk.withFaults_file?]

end LogStep

namespace DiagnosticLog

/-- The disk has changed in the log only, but for what fails on it. -/
theorem diskAfter_agreesOutside (log : DiagnosticLog) (d : Disk) (steps : List LogStep) :
    ∃ faults, (log.diskAfter d steps).AgreesOutside log.path (d.withFaults faults) := by
  induction steps generalizing d with
  | nil => exact ⟨d.faults, .refl _ _⟩
  | cons step steps ih =>
    have hstep : (step.disk log d).AgreesOutside log.path (d.withFaults step.faults) :=
      (LogStep.taken log d step).agreesOutside
    obtain ⟨faults, hsteps⟩ := ih (step.disk log d)
    exact ⟨faults, hsteps.trans hstep.withFaults⟩

theorem isSilent_diskAfter (hsilent : d.isSilent log.path = false) (steps : List LogStep) :
    (log.diskAfter d steps).isSilent log.path = false := by
  obtain ⟨faults, hagrees⟩ := diskAfter_agreesOutside log d steps
  rwa [hagrees.isSilent_eq, Disk.withFaults_isSilent]

/-- Steps that do not change the log leave in it what was there, if those that fail change nothing. -/
theorem file?_diskAfter_of_not_changed {steps : List LogStep}
    (hclean : ∀ step ∈ steps, step.FailsCleanly)
    (h : ∀ e ∈ log.answers d steps, ¬ LogUse.Changed e) :
    (log.diskAfter d steps).file? log.path = d.file? log.path := by
  induction steps generalizing d with
  | nil => rfl
  | cons step steps ih =>
    obtain ⟨hstep, hclean⟩ := List.forall_mem_cons.mp hclean
    obtain ⟨hfirst, hmore⟩ := List.forall_mem_cons.mp h
    exact (ih hclean hmore).trans ((LogStep.taken log d step).file?_of_not_changed hstep hfirst)

theorem diskAfter_concat (d : Disk) (first : List LogStep) (step : LogStep) :
    log.diskAfter d (first ++ [step]) = step.disk log (log.diskAfter d first) := by
  rw [diskAfter, List.foldl_append]
  rfl

/-- What a step has left in the log is there after steps that do not change the log. -/
theorem file?_diskAfter_append_cons {first last : List LogStep}
    (hclean : ∀ step ∈ last, step.FailsCleanly)
    (h : ∀ e ∈ log.answers (log.diskAfter d (first ++ [step])) last, ¬ LogUse.Changed e) :
    (log.diskAfter d (first ++ step :: last)).file? log.path =
      (step.disk log (log.diskAfter d first)).file? log.path := by
  have hsplit : log.diskAfter d (first ++ step :: last) =
      log.diskAfter (log.diskAfter d (first ++ [step])) last := by
    rw [List.append_cons, diskAfter, List.foldl_append]
    rfl
  rw [hsplit, file?_diskAfter_of_not_changed hclean h, diskAfter_concat]

end DiagnosticLog

end Steps

end Infill
