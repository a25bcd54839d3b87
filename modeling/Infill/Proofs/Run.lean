import Infill.Pattern.Estimate
import Infill.Program
import Infill.Proofs.DiagnosticLog
import Infill.Proofs.Modifier.Indentation

/-!
# Runs as a whole

A run writes nothing unless all of its input has been filled, and then it hands everything to the
sink at once.  What it comes to is decided by the first thing that fails or breaks off: the descriptor, a
line, the reader, and at last the sink.  Nothing but the log is changed on the disk, and only when the
failure of a run is reported.  A run that is broken off has nothing to report (`run_can_be_broken_off`).
-/

namespace Infill

open Infill.Action

namespace Sink

variable (sink : Sink) {bytes : Bytes}

theorem write_prefix (bytes : Bytes) : (sink.write bytes).1 <+: bytes := by
  rw [write]
  split
  · exact List.nil_prefix
  · split
    · exact List.take_prefix _ _
    · exact List.prefix_rfl

theorem write_of_ok (h : (sink.write bytes).2 = .ok ()) : (sink.write bytes).1 = bytes := by
  rw [write] at h ⊢
  split at h
  · next hnil => rw [if_pos hnil, hnil]
  · next hne =>
    rw [if_neg hne]
    split at h
    · contradiction
    · rfl

theorem deliver_fst (bytes : Bytes) : (sink.deliver bytes).1 = (sink.write bytes).1 := by
  rw [deliver]
  split
  · next h => rw [h]
  · next h => rw [h]

theorem deliver_ok_iff : (sink.deliver bytes).2 = .ok () ↔
    (sink.write bytes).2 = .ok () ∧ sink.flush bytes = .ok () := by
  rw [deliver]
  split
  · next h => simp [h]
  · next written h =>
    have hwritten : written = bytes := by
      have hall : (sink.write bytes).1 = bytes := write_of_ok sink (by rw [h])
      rwa [h] at hall
    simp [h, hwritten]

end Sink

section Execute

variable [Pattern.Limit] {world : World} {path : Path} {input : Input} {sink : Sink}
  {descriptor : Descriptor}

theorem processAll_of_firstFailure {site : Site} {stop : Stop Failure}
    (h : FirstFailure site input.lines stop) : (processAll input site {}).result = .error stop :=
  processAll_error_iff.mpr (Or.inl (firstFailure_iff.mp h))

theorem processAll_of_fault {site : Site} {filled : Bytes} {reason : Text}
    (h : (processLines 1 input.lines site {}).result = .ok filled)
    (hfault : input.fault = some reason) :
    (processAll input site {}).result = .error (.failure (.io reason)) :=
  processAll_error_iff.mpr (Or.inr ⟨filled, reason, h, hfault, rfl⟩)

/-- A stream that comes to nothing leaves the sink alone. -/
theorem execute_of_error (hd : Descriptor.load world.disk path = .ok descriptor)
    {stop : Stop Failure}
    (h : (processAll input { world, settingsPath := descriptor.kvFilePath } {}).result =
      .error stop) :
    (execute world path input sink).result = .error (stop.map .stream) ∧
      (execute world path input sink).written = [] := by
  simp only [execute, hd, h]
  exact ⟨trivial, trivial⟩

/-- What has been filled is delivered, and the run comes to what its delivery comes to. -/
theorem execute_of_ok (sink : Sink) (hd : Descriptor.load world.disk path = .ok descriptor)
    {filled : Bytes}
    (h : (processAll input { world, settingsPath := descriptor.kvFilePath } {}).result =
      .ok filled) :
    (execute world path input sink).result =
        (sink.deliver filled).2.mapError (.failure ∘ .output) ∧
      (execute world path input sink).written = (sink.deliver filled).1 := by
  simp only [execute, hd, h]
  split
  · next hdeliver => rw [hdeliver]; exact ⟨rfl, rfl⟩
  · next hdeliver => rw [hdeliver]; exact ⟨rfl, rfl⟩

/-- A run depends on the lines of its input and on its fault only. -/
theorem execute_congr {input' : Input} (hlines : input'.lines = input.lines)
    (hfault : input'.fault = input.fault) :
    execute world path input' sink = execute world path input sink := by
  have hprocess : processAll input' = processAll input := by
    rw [processAll, processAll, hlines, hfault]
  simp only [execute, hprocess]

/-- A run is broken off just if its stream is. -/
theorem execute_eq_breach_iff (sink : Sink) (hd : Descriptor.load world.disk path = .ok descriptor)
    {b : Breach} :
    (execute world path input sink).result = .error (.breach b) ↔
      StreamBreaksOff { world, settingsPath := descriptor.kvFilePath } {} input.lines b := by
  rw [← processAll_eq_breach_iff]
  cases h : (processAll input { world, settingsPath := descriptor.kvFilePath } {}).result with
  | error stop =>
    rw [(execute_of_error hd h).1]
    cases stop with
    | failure f => exact ⟨(nomatch ·), (nomatch ·)⟩
    | breach first => simp [Stop.map]
  | ok filled =>
    rw [(execute_of_ok sink hd h).1]
    cases (sink.deliver filled).2 with
    | error reason => exact ⟨(nomatch ·), (nomatch ·)⟩
    | ok _ => exact ⟨(nomatch ·), (nomatch ·)⟩

/-- What becomes of a run at a site, according to the first thing that comes to nothing behind the
descriptor. -/
structure AllOrNothing (site : Site) (input : Input) (sink : Sink) (outcome : RunOutcome) :
    Prop where
  line : ∀ f, FirstFailure site input.lines (.failure f) →
    outcome.result = .error (.failure (.stream f)) ∧ outcome.written = []
  brokenOff : ∀ b, outcome.result = .error (.breach b) ↔ StreamBreaksOff site {} input.lines b
  brokenOffSink : ∀ b, outcome.result = .error (.breach b) → outcome.written = []
  reader : ∀ filled reason, (processLines 1 input.lines site {}).result = .ok filled →
    input.fault = some reason →
    outcome.result = .error (.failure (.stream (.io reason))) ∧ outcome.written = []
  sink : ∀ filled, (processLines 1 input.lines site {}).result = .ok filled → input.fault = none →
    (processAll input site {}).result = .ok filled ∧
      outcome.written = (sink.write filled).1 ∧ outcome.written <+: filled ∧
      (outcome.result = .ok () ↔ (sink.write filled).2 = .ok () ∧ sink.flush filled = .ok ()) ∧
      (outcome.result = .ok () → outcome.written = filled)
  complete : (∃ f, FirstFailure site input.lines (.failure f)) ∨
    (∃ b, StreamBreaksOff site {} input.lines b) ∨
    ∃ filled, (processLines 1 input.lines site {}).result = .ok filled

theorem execute_allOrNothing (hd : Descriptor.load world.disk path = .ok descriptor)
    (input : Input) (sink : Sink) :
    AllOrNothing { world, settingsPath := descriptor.kvFilePath } input sink
      (execute world path input sink) where
  line _ hfail := execute_of_error hd (processAll_of_firstFailure hfail)
  brokenOff _ := execute_eq_breach_iff sink hd
  brokenOffSink _ hbreach :=
    (execute_of_error hd (processAll_eq_breach_iff.mpr ((execute_eq_breach_iff sink hd).mp hbreach))).2
  reader _ _ hfilled hfault := execute_of_error hd (processAll_of_fault hfilled hfault)
  sink filled hfilled hfault := by
    have hall : (processAll input { world, settingsPath := descriptor.kvFilePath } {}).result =
        .ok filled := by
      rw [processAll_of_no_fault hfault, hfilled]
    obtain ⟨hresult, hwritten⟩ := execute_of_ok sink hd hall
    rw [Sink.deliver_fst] at hwritten
    have hok : (execute world path input sink).result = .ok () ↔
        (sink.write filled).2 = .ok () ∧ sink.flush filled = .ok () := by
      rw [hresult, ← sink.deliver_ok_iff]
      cases (sink.deliver filled).2 <;> simp [Except.mapError]
    refine ⟨hall, hwritten, hwritten ▸ Sink.write_prefix sink filled, hok, ?_⟩
    intro h
    rw [hwritten, sink.write_of_ok (hok.mp h).1]
  complete := by
    cases h : (processLines 1 input.lines
        { world, settingsPath := descriptor.kvFilePath } {}).result with
    | error stop =>
      have hfirst := firstFailure_iff.mpr h
      cases stop with
      | failure f => exact Or.inl ⟨f, hfirst⟩
      | breach b =>
        exact Or.inr (Or.inl ⟨b, processAll_eq_breach_iff.mp (processAll_of_firstFailure hfirst)⟩)
    | ok filled => exact Or.inr (Or.inr ⟨filled, rfl⟩)

/-- What has been read behind the last line feed before reading fails is never looked at. -/
theorem execute_of_fault (world : World) (path : Path) (sink : Sink) {lines : List Bytes}
    {rest : Bytes} (hlines : ∀ line ∈ lines, lineFeed ∉ line) (hrest : lineFeed ∉ rest)
    (reason : Text) :
    ({ bytes := terminated lines ++ rest, fault := some reason } : Input).lines = lines ∧
      execute world path { bytes := terminated lines ++ rest, fault := some reason } sink =
        execute world path { bytes := terminated lines, fault := some reason } sink := by
  have hread := Input.lines_terminated lines rest hlines hrest (some reason)
  have hwhole := Input.lines_terminated lines [] hlines List.not_mem_nil (some reason)
  simp only [Option.isSome_some, or_true, if_true, List.append_nil] at hread hwhole
  exact ⟨hread, execute_congr (hread.trans hwhole.symm) rfl⟩

theorem execute_ne_ok_of_fault {reason : Text} (hfault : input.fault = some reason) :
    (execute world path input sink).result ≠ .ok () := by
  cases hd : Descriptor.load world.disk path with
  | error f => simp [execute, hd]
  | ok descriptor =>
    have hall := execute_allOrNothing hd input sink
    rcases hall.complete with ⟨f, hfail⟩ | ⟨b, hbreaks⟩ | ⟨filled, hfilled⟩
    · simp [(hall.line f hfail).1]
    · simp [(hall.brokenOff b).mpr hbreaks]
    · simp [(hall.reader filled reason hfilled hfault).1]

end Execute

section Report

/-- What is said and kept about a failure: its wording, and whether the log has it too. -/
structure Reported (log : DiagnosticLog) (disk : Disk) (failure : RunFailure) (now : Instant)
    (notices : List Notice) (after : Disk) : Prop where
  notices : ∃ second, notices = [.error failure.report, second] ∧
    ((second = .remark ("Details written to ".toList ++ log.path.text) ∧
        log.record disk failure.report now = (after, .ok ()) ∧
        (disk.isSilent log.path = false → after.file? log.path = some
          { content := Utf8.encode (now.rfc3339 ++ ' ' :: failure.report ++ ['\n'])
            modified := now })) ∨
      ∃ reason, second = .warning ("Could not write diagnostic log: ".toList ++ reason) ∧
        log.record disk failure.report now = (after, .error reason) ∧
        ((∀ file, disk.faults.remains .write file = file) → after = disk))
  unchanged : after.AgreesOutside log.path disk
  otherFiles : ∀ path, disk.locate path ≠ disk.locate log.path → after.file? path = disk.file? path

theorem reported (log : DiagnosticLog) (disk : Disk) (failure : RunFailure) (now : Instant) :
    Reported log disk failure now (reportFailure log disk failure now).1
      (reportFailure log disk failure now).2 := by
  have hwritten : disk.Written log.path (DiagnosticLog.entry failure.report now) now
    (log.record disk failure.report now) := Disk.written _ _ _ _
  cases h : log.record disk failure.report now with | mk after answer
  rw [h] at hwritten
  have hagrees := hwritten.agreesOutside
  cases answer with
  | error reason =>
    simp only [reportFailure, h]
    refine ⟨⟨_, rfl, Or.inr ⟨reason, rfl, h, ?_⟩⟩, hagrees, fun _ => hagrees.file?_eq⟩
    intro hclean
    cases hwritten with
    | refused => exact Disk.afterFailing_of_clean hclean log.path
  | ok _ =>
    simp only [reportFailure, h]
    exact ⟨⟨_, rfl, Or.inl ⟨rfl, h, hwritten.file?_of_ok rfl⟩⟩, hagrees, fun _ => hagrees.file?_eq⟩

/-- Removing a stale log changes nothing but the log. -/
theorem prunedDisk_agreesOutside (l : Launch) : l.prunedDisk.AgreesOutside l.log.path l.disk :=
  (DiagnosticLog.pruned l.log l.disk l.now).agreesOutside

end Report

/-- A run writes everything or nothing, and its failure is reported once.  A run that is broken off
comes neither to a failure nor to its end, and it writes nothing either. -/
theorem run_writes_all_or_nothing [Pattern.Limit] :
    (∀ world path input sink,
      (∀ f, Descriptor.load world.disk path = .error f →
        execute world path input sink =
          { result := .error (.failure (.descriptor path f)), written := [], events := [] }) ∧
      (∀ descriptor, Descriptor.load world.disk path = .ok descriptor →
        AllOrNothing { world, settingsPath := descriptor.kvFilePath } input sink
          (execute world path input sink)) ∧
      (∃ lines rest, input.bytes = terminated lines ++ rest ∧
        (∀ line ∈ lines, lineFeed ∉ line) ∧ lineFeed ∉ rest ∧
        (input.fault.isSome → input.lines = lines ∧
          execute world path input sink =
            execute world path { input with bytes := terminated lines } sink ∧
          (execute world path input sink).result ≠ .ok ()))) ∧
    (∀ log disk failure now, Reported log disk failure now
      (reportFailure log disk failure now).1 (reportFailure log disk failure now).2) ∧
    (∀ (l : Launch) descriptor,
      ((l.runWith descriptor).code = 0 ∨ (l.runWith descriptor).code = Launch.brokenOffCode →
        (l.runWith descriptor).disk = l.prunedDisk) ∧
      (l.runWith descriptor).disk.AgreesOutside l.log.path l.disk) := by
  refine ⟨?_, reported, ?_⟩
  · intro world path input sink
    refine ⟨fun f hf => by simp only [execute, hf],
      fun descriptor hd => execute_allOrNothing hd input sink, ?_⟩
    obtain ⟨bytes, fault⟩ := input
    obtain ⟨lines, rest, rfl, hlines, hrest⟩ := exists_terminated bytes
    refine ⟨lines, rest, rfl, hlines, hrest, ?_⟩
    intro hfault
    obtain ⟨reason, rfl⟩ := Option.isSome_iff_exists.mp hfault
    obtain ⟨hread, hexecute⟩ := execute_of_fault world path sink hlines hrest reason
    exact ⟨hread, hexecute, execute_ne_ok_of_fault rfl⟩
  · intro l descriptor
    have hpruned := prunedDisk_agreesOutside l
    simp only [Launch.runWith]
    split
    · exact ⟨fun _ => rfl, hpruned⟩
    · next failure _ =>
      refine ⟨fun h => absurd h ?_, (reported l.log l.prunedDisk failure l.now).unchanged.trans hpruned⟩
      simp [Launch.failureCode, Launch.brokenOffCode]
    · exact ⟨fun _ => rfl, hpruned⟩

/-- A world where the only setting is empty. -/
def emptySettingWorld : World :=
  { disk :=
      { files :=
          [(({ text := "run.yml".toList } : Path).location,
              { content := [], modified := { nanos := 0 } }),
           (({ text := Descriptor.defaultFile } : Path).location,
              { content := Utf8.encode "K=\n".toList, modified := { nanos := 0 } })]
        wording := fun _ _ _ => [] }
    environment := []
    answer := fun _ => .error [] }

/-- A line with an indentation that memory cannot be addressed for. -/
def wideInput : Input :=
  { bytes := Utf8.encode "$\x7bref:K | indent9223372036854775808\x7d".toList }

open scoped Pattern.Estimate in
/-- A run can come neither to its end nor to a failure, although everything that is read is there and
the sink takes all that is written. -/
theorem run_can_be_broken_off :
    Descriptor.load emptySettingWorld.disk { text := "run.yml".toList } = .ok {} ∧
      wideInput.fault = none ∧
      (∀ bytes, (Sink.working.write bytes).2 = .ok () ∧ Sink.working.flush bytes = .ok ()) ∧
      (execute emptySettingWorld { text := "run.yml".toList } wideInput .working).result ≠ .ok () ∧
      ¬∃ f, (execute emptySettingWorld { text := "run.yml".toList } wideInput .working).result =
        .error (.failure f) := by
  have hd : Descriptor.load emptySettingWorld.disk { text := "run.yml".toList } = .ok {} := by
    decide +kernel
  have hlines : wideInput.lines = [wideInput.bytes] := by decide +kernel
  have hsettings : Settings.load emptySettingWorld.disk ({} : Descriptor).kvFilePath =
      .ok { entries := [(['K'], [])] } := by
    decide +kernel
  have hbreaks : StreamBreaksOff
      { world := emptySettingWorld, settingsPath := ({} : Descriptor).kvFilePath } {}
      wideInput.lines (.spaces 9223372036854775808) := by
    refine ⟨[], wideInput.bytes, [], [], _, hlines, rfl, by decide +kernel,
      breaksOff_wide_indentation ?_⟩
    simp only [Action.settings, hsettings]
  have hresult := (execute_eq_breach_iff .working hd).mpr hbreaks
  refine ⟨hd, rfl, ?_, ?_, ?_⟩
  · intro bytes
    rw [Sink.write]
    split
    · exact ⟨rfl, rfl⟩
    · exact ⟨rfl, rfl⟩
  · rw [hresult]
    simp only [ne_eq, reduceCtorEq, not_false_eq_true]
  · rw [hresult]
    simp only [Except.error.injEq, reduceCtorEq, exists_false, not_false_eq_true]

end Infill
