import Infill.Disk.Basic
import Mathlib.Tactic.ByCases

/-!
# What changes on a disk

Putting a file somewhere changes nothing at other locations, and paths lead where they led before.
`Disk.AgreesOutside` says that two disks differ at most in the file that a path names; operations on a
path leave such a disk behind, whether or not they fail.
-/

namespace Infill.Disk

variable {d d' : Disk} {p : Path} {l l' : Location}

theorem fileAt?_put_self (d : Disk) (l : Location) (f : File) :
    (d.put l f).fileAt? l = some f := by
  simp [fileAt?, put]

theorem fileAt?_erase_of_ne (d : Disk) (h : l' ≠ l) : (d.erase l).fileAt? l' = d.fileAt? l' := by
  simp only [fileAt?, erase, List.find?_filter]
  congr 2
  funext entry
  by_cases hentry : entry.1 = l'
  · simp [hentry, h]
  · simp [hentry]

theorem fileAt?_erase_self (d : Disk) (l : Location) : (d.erase l).fileAt? l = none := by
  simp [fileAt?, erase]

theorem fileAt?_put_of_ne (d : Disk) (f : File) (h : l' ≠ l) :
    (d.put l f).fileAt? l' = d.fileAt? l' := by
  rw [← fileAt?_erase_of_ne d h]
  simp [fileAt?, put, Ne.symm h]

/-- Where a path leads depends on the directories only. -/
theorem follow_ok_iff (hdirectories : d'.directories = d.directories) (here : Location)
    (parts : List Text) : d'.follow here parts = .ok l ↔ d.follow here parts = .ok l := by
  induction parts generalizing here with
  | nil => exact Iff.rfl
  | cons part parts ih =>
    simp only [follow, hdirectories]
    by_cases hhere : here.reverse ∈ d.directories
    · simp only [hhere, if_true]
      split
      · exact ih here
      · exact ih _
      · split
        · exact Iff.rfl
        · exact ih _
    · simp only [hhere, if_false]
      constructor
      · intro h
        split at h <;> contradiction
      · intro h
        split at h <;> contradiction

/-- The disks differ at most in the file that a path names on the second one. -/
structure AgreesOutside (p : Path) (d' d : Disk) : Prop where
  files : ∀ l, d.locate p ≠ .ok l → d'.fileAt? l = d.fileAt? l
  directories : d'.directories = d.directories
  devices : d'.devices = d.devices
  faults : d'.faults = d.faults
  workingDirectory : d'.workingDirectory = d.workingDirectory
  wording : d'.wording = d.wording

theorem AgreesOutside.refl (p : Path) (d : Disk) : d.AgreesOutside p d :=
  ⟨fun _ _ => rfl, rfl, rfl, rfl, rfl, rfl⟩

/-- Paths lead where they led before. -/
theorem AgreesOutside.locate_ok_iff (h : d'.AgreesOutside p d) (q : Path) :
    d'.locate q = .ok l ↔ d.locate q = .ok l := by
  simp only [locate, h.workingDirectory]
  cases d.workingDirectory with
  | none => exact Iff.rfl
  | some start =>
    simp only
    split
    · exact Iff.rfl
    · split
      · exact Iff.rfl
      · split
        · exact follow_ok_iff h.directories _ _
        · exact follow_ok_iff h.directories _ _

theorem AgreesOutside.trans {d'' : Disk} (h' : d''.AgreesOutside p d') (h : d'.AgreesOutside p d) :
    d''.AgreesOutside p d where
  files l hl := (h'.files l (mt (h.locate_ok_iff p).mp hl)).trans (h.files l hl)
  directories := h'.directories.trans h.directories
  devices := h'.devices.trans h.devices
  faults := h'.faults.trans h.faults
  workingDirectory := h'.workingDirectory.trans h.workingDirectory
  wording := h'.wording.trans h.wording

/-- A path that leads somewhere else names the file it named before. -/
theorem AgreesOutside.file?_eq (h : d'.AgreesOutside p d) {q : Path}
    (hq : d.locate q ≠ d.locate p) : d'.file? q = d.file? q := by
  rw [file?, file?]
  cases hlocate : d.locate q with
  | ok l =>
    rw [(h.locate_ok_iff q).mpr hlocate]
    exact h.files l (by rw [← hlocate]; exact Ne.symm hq)
  | error refusal =>
    cases hlocate' : d'.locate q with
    | error refusal' => rfl
    | ok l =>
      rw [h.locate_ok_iff, hlocate] at hlocate'
      contradiction

theorem AgreesOutside.isSilent_eq (h : d'.AgreesOutside p d) (q : Path) :
    d'.isSilent q = d.isSilent q := by
  rw [isSilent, isSilent, h.workingDirectory, h.devices]
  cases hlocate : d.locate q with
  | ok l => rw [(h.locate_ok_iff q).mpr hlocate]
  | error refusal =>
    cases hlocate' : d'.locate q with
    | error refusal' => rfl
    | ok l =>
      rw [h.locate_ok_iff, hlocate] at hlocate'
      cases hlocate'

theorem agreesOutside_put (hp : d.locate p = .ok l) (f : File) :
    (d.put l f).AgreesOutside p d :=
  ⟨fun _ hl' => fileAt?_put_of_ne d f (fun h => hl' (h ▸ hp)), rfl, rfl, rfl, rfl, rfl⟩

theorem agreesOutside_erase (hp : d.locate p = .ok l) : (d.erase l).AgreesOutside p d :=
  ⟨fun _ hl' => fileAt?_erase_of_ne d (fun h => hl' (h ▸ hp)), rfl, rfl, rfl, rfl, rfl⟩

theorem file?_put_self (hp : d.locate p = .ok l) (f : File) : (d.put l f).file? p = some f := by
  rw [file?, ((agreesOutside_put hp f).locate_ok_iff p).mpr hp]
  exact fileAt?_put_self d l f

theorem file?_erase_self (hp : d.locate p = .ok l) : (d.erase l).file? p = none := by
  rw [file?, ((agreesOutside_erase hp).locate_ok_iff p).mpr hp]
  exact fileAt?_erase_self d l

theorem file?_eq_some_iff {f : File} :
    d.file? p = some f ↔ ∃ l, d.locate p = .ok l ∧ d.fileAt? l = some f := by
  rw [file?]
  cases d.locate p <;> simp

theorem openFile_eq_ok_iff {op : Operation} {f : File} : d.openFile op p = .ok (l, f) ↔
    d.isBroken op p = false ∧ d.locate p = .ok l ∧ d.fileAt? l = some f := by
  rw [openFile]
  cases hbroken : d.isBroken op p with
  | true => simp
  | false =>
    cases hlocate : d.locate p with
    | error refusal => simp
    | ok here =>
      cases hfile : d.fileAt? here with
      | none =>
        suffices here = l → ¬ d.fileAt? l = some f by simpa [hfile]
        rintro rfl
        simp [hfile]
      | some found =>
        suffices here = l → (found = f ↔ d.fileAt? l = some f) by simpa [hfile]
        rintro rfl
        simp [hfile]

theorem openFile_of_broken {op : Operation} (h : d.isBroken op p = true) :
    d.openFile op p = .error .broken := by
  rw [openFile, if_pos h]

theorem place_eq_ok_iff : d.place p = .ok l ↔ d.locate p = .ok l ∧ d.unwritable? l = none := by
  rw [place]
  cases d.locate p with
  | error refusal => simp
  | ok here =>
    cases hfree : d.unwritable? here with
    | some refusal =>
      suffices here = l → ¬d.unwritable? l = none by simpa [hfree]
      rintro rfl
      simp [hfree]
    | none =>
      suffices here = l → d.unwritable? l = none by simpa [hfree]
      rintro rfl
      exact hfree

/-- What fails changes at most the file that it was to change. -/
theorem agreesOutside_afterFailing (d : Disk) (op : Operation) (p : Path) :
    (d.afterFailing op p).AgreesOutside p d := by
  rw [afterFailing]
  split
  · next l hplace =>
    have hlocate := (place_eq_ok_iff.mp hplace).1
    split
    · rw [leave]
      split
      · exact .refl p d
      · split
        · exact agreesOutside_put hlocate _
        · exact agreesOutside_erase hlocate
    · exact .refl p d
  · exact .refl p d

/-- What fails leaves the file as it was, or what it has been made to leave. -/
theorem file?_afterFailing (d : Disk) (op : Operation) (p : Path) :
    (d.afterFailing op p).file? p = d.file? p ∨ d.isBroken op p = true ∧
      (d.afterFailing op p).file? p = d.faults.remains op (d.file? p) := by
  rw [afterFailing]
  split
  · next l hplace =>
    have hlocate := (place_eq_ok_iff.mp hplace).1
    have hfile : d.file? p = d.fileAt? l := by rw [file?, hlocate]
    split
    · next hbroken =>
      refine Or.inr ⟨hbroken, ?_⟩
      rw [leave, hfile]
      split
      · next hsame => rw [hfile, hsame]
      · split
        · next f hf => rw [file?_put_self hlocate, hf]
        · next hnone => rw [file?_erase_self hlocate, hnone]
    · exact Or.inl rfl
  · exact Or.inl rfl

/-- An operation that cannot have begun anything leaves the disk alone when it fails. -/
theorem afterFailing_of_clean {op : Operation} (h : ∀ file, d.faults.remains op file = file)
    (p : Path) : d.afterFailing op p = d := by
  rw [afterFailing]
  split
  · split
    · rw [leave, if_pos (h _)]
    · rfl
  · rfl

/-- The ways in which writing comes out: the disk afterwards, and the answer. -/
inductive Written (d : Disk) (p : Path) (content : Text) (now : Instant) :
    Disk × Except Text Unit → Prop
  | silent (device : d.isSilent p = true) : Written d p content now (d, .ok ())
  | put {l : Location} (noDevice : d.isSilent p = false) (fine : d.isBroken .write p = false)
      (place : d.locate p = .ok l) (free : d.unwritable? l = none) :
      Written d p content now (d.put l { content := Utf8.encode content, modified := now }, .ok ())
  | refused (noDevice : d.isSilent p = false) (failure : d.isBroken .write p = true ∨
        ∀ l, d.locate p = .ok l → d.unwritable? l ≠ none) (reason : Text) :
      Written d p content now (d.afterFailing .write p, .error reason)

theorem written (d : Disk) (p : Path) (content : Text) (now : Instant) :
    Written d p content now (d.write p content now) := by
  cases hsilent : d.isSilent p with
  | true =>
    rw [write, if_pos hsilent]
    exact .silent hsilent
  | false =>
    rw [write, if_neg (Bool.eq_false_iff.mp hsilent)]
    cases hbroken : d.isBroken .write p with
    | true =>
      rw [if_pos rfl]
      exact .refused hsilent (.inl hbroken) _
    | false =>
      rw [if_neg Bool.false_ne_true]
      cases hplace : d.place p with
      | error refusal =>
        refine .refused hsilent (.inr fun l hl hfree => ?_) _
        rw [place_eq_ok_iff.mpr ⟨hl, hfree⟩] at hplace
        contradiction
      | ok l =>
        obtain ⟨hlocate, hfree⟩ := place_eq_ok_iff.mp hplace
        exact .put hsilent hbroken hlocate hfree

namespace Written

variable {content : Text} {now : Instant} {r : Disk × Except Text Unit}

theorem succeeds_iff (h : Written d p content now r) (hsilent : d.isSilent p = false) :
    r.2 = .ok () ↔
      d.isBroken .write p = false ∧ ∃ l, d.locate p = .ok l ∧ d.unwritable? l = none := by
  cases h with
  | silent device =>
    rw [hsilent] at device
    cases device
  | put noDevice fine place free => exact ⟨fun _ => ⟨fine, _, place, free⟩, fun _ => rfl⟩
  | refused noDevice failure reason =>
    simp only [reduceCtorEq, false_iff]
    rintro ⟨fine, l, place, free⟩
    rcases failure with broken | nowhere
    · rw [fine] at broken
      cases broken
    · exact nowhere l place free

theorem agreesOutside (h : Written d p content now r) : r.1.AgreesOutside p d := by
  cases h with
  | silent => exact .refl p d
  | put noDevice fine place => exact agreesOutside_put place _
  | refused => exact agreesOutside_afterFailing d .write p

/-- Writing to a silent device leaves nothing behind, and any other file holds what has been
written. -/
theorem file?_of_ok (h : Written d p content now r) (hok : r.2 = .ok ())
    (hsilent : d.isSilent p = false) :
    r.1.file? p = some { content := Utf8.encode content, modified := now } := by
  cases h with
  | silent device =>
    rw [hsilent] at device
    cases device
  | put noDevice fine place => exact file?_put_self place _
  | refused => contradiction

end Written

/-- Whether a file can be written does not depend on what is written, nor does what is left if it
cannot be. -/
theorem write_cases (disk : Disk) (path : Path) :
    (∃ after answer, (∀ content now, disk.write path content now = (after, answer)) ∧
        ((∀ file, disk.faults.remains .write file = file) → after = disk)) ∨
      ∃ l, ∀ content now, disk.write path content now =
        (disk.put l { content := Utf8.encode content, modified := now }, .ok ()) := by
  by_cases hsilent : disk.isSilent path
  · exact Or.inl ⟨disk, .ok (), fun content now => by rw [write, if_pos hsilent], fun _ => rfl⟩
  cases hplace : if disk.isBroken .write path then .error .broken else disk.place path with
  | error refusal =>
    refine Or.inl ⟨disk.afterFailing .write path, .error (disk.wording .write path refusal),
      fun content now => ?_, fun hclean => afterFailing_of_clean hclean path⟩
    rw [write, if_neg hsilent, hplace]
  | ok l =>
    refine Or.inr ⟨l, fun content now => ?_⟩
    rw [write, if_neg hsilent, hplace]

end Infill.Disk
