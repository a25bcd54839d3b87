import Infill.Proofs.Action
import Infill.Proofs.Text
import Mathlib.Data.List.Forall2

/-!
# Streams, line by line

A stream is a sequence of lines that a line feed ends, and a rest without a line feed.  The lines
are filled in order; a stream fails or breaks off as the first line that does, and otherwise comes
to the segments of all lines one after the other.
-/

namespace Infill

open Infill.Action

/-- Lines with a line feed behind each of them. -/
def terminated (lines : List Bytes) : Bytes := lines.flatMap (· ++ [lineFeed])

theorem exists_terminated (bytes : Bytes) :
    ∃ lines rest, bytes = terminated lines ++ rest ∧ (∀ line ∈ lines, lineFeed ∉ line) ∧
      lineFeed ∉ rest :=
  exists_join lineFeed bytes

namespace Input

theorem lines_terminated (lines : List Bytes) (rest : Bytes)
    (hlines : ∀ line ∈ lines, lineFeed ∉ line) (hrest : lineFeed ∉ rest) (fault : Option Text) :
    ({ bytes := terminated lines ++ rest, fault } : Input).lines =
      if rest = [] ∨ fault.isSome then lines else lines ++ [rest] := by
  have hpieces : pieces lineFeed (terminated lines ++ rest) = lines ++ [rest] :=
    pieces_join hlines hrest
  simp only [Input.lines, hpieces, List.getLast?_concat, List.dropLast_concat]
  cases rest with
  | nil => simp
  | cons b rest => cases fault <;> simp

/-- Every piece that is not empty is a line, where reading reaches the end. -/
theorem mem_lines_of_mem_pieces {input : Input} (hfault : input.fault = none) {line : Bytes}
    (hline : line ∈ pieces lineFeed input.bytes) (hne : line ≠ []) : line ∈ input.lines := by
  obtain ⟨bytes, fault⟩ := input
  obtain rfl : fault = none := hfault
  obtain ⟨lines, rest, rfl, hlines, hrest⟩ := exists_terminated bytes
  have hpieces : pieces lineFeed (terminated lines ++ rest) = lines ++ [rest] :=
    pieces_join hlines hrest
  rw [hpieces] at hline
  rw [lines_terminated lines rest hlines hrest]
  split
  · next hend =>
    have hnil : rest = [] := by simpa using hend
    rcases List.mem_append.mp hline with hline | hline
    · exact hline
    · exact absurd (hnil ▸ List.mem_singleton.mp hline) hne
  · exact hline

theorem lineFeed_not_mem_lines (input : Input) : ∀ line ∈ input.lines, lineFeed ∉ line := by
  obtain ⟨bytes, fault⟩ := input
  obtain ⟨lines, rest, rfl, hlines, hrest⟩ := exists_terminated bytes
  rw [lines_terminated lines rest hlines hrest]
  split
  · exact hlines
  · intro line hline
    rcases List.mem_append.mp hline with hline | hline
    · exact hlines line hline
    · rw [List.mem_singleton.mp hline]
      exact hrest

end Input

variable [Pattern.Limit] {site : Site} {cache : Cache}

/-- A line that is UTF-8 is filled as text. -/
theorem processRaw_of_text {line : Bytes} {text : Text}
    (h : Utf8.decode? (chompReturn line) = some text) (n : Nat) :
    processRaw n line = processLine text >>= fun filled => pure (Utf8.encode filled) := by
  simp only [processRaw, h]

/-- A line that is not UTF-8 is copied as it is, or not at all. -/
theorem processRaw_of_undecodable {line : Bytes} (h : Utf8.decode? (chompReturn line) = none)
    (n : Nat) : processRaw n line = copyRaw n (chompReturn line) := by
  simp only [processRaw, h]

/-- The number of a line shows only in the wording of a failure. -/
theorem processRaw_ok_iff (n m : Nat) (line out : Bytes) :
    (processRaw n line site cache).result = .ok out ↔
      (processRaw m line site cache).result = .ok out := by
  simp only [processRaw]
  cases Utf8.decode? (chompReturn line) with
  | some text => exact Iff.rfl
  | none =>
    simp only [copyRaw]
    split
    · simp [Action.fail, Action.ofResult, Except.mapError]
    · exact Iff.rfl

theorem processLines_cons (n : Nat) (line : Bytes) (lines : List Bytes) :
    processLines n (line :: lines) = processRaw n line >>= fun filled =>
      processLines (n + 1) lines >>= fun more => pure (filled ++ lineFeed :: more) := rfl

theorem processLines_cons_of_ok {n : Nat} {line out more : Bytes} {lines : List Bytes}
    (hout : (processRaw n line site cache).result = .ok out)
    (hmore : (processLines (n + 1) lines site (processRaw n line site cache).cache).result =
      .ok more) :
    (processLines n (line :: lines) site cache).result = .ok (out ++ lineFeed :: more) ∧
      (processLines n (line :: lines) site cache).cache =
        (processLines (n + 1) lines site (processRaw n line site cache).cache).cache := by
  rw [processLines_cons, bind_of_ok hout, bind_of_ok hmore, pure_apply]
  exact ⟨rfl, rfl⟩

theorem processLines_append (n : Nat) (before after : List Bytes) :
    processLines n (before ++ after) = processLines n before >>= fun filled =>
      processLines (n + before.length) after >>= fun more => pure (filled ++ more) := by
  induction before generalizing n with
  | nil => simp [processLines]
  | cons line before ih =>
    have hnumber : n + 1 + before.length = n + (line :: before).length := by
      simp only [List.length_cons]
      omega
    simp only [List.cons_append, processLines_cons, ih, hnumber, bind_assoc, pure_bind,
      List.append_assoc]

/-- Why the first line of `lines` that comes to nothing does so, after the lines before it have been
filled. -/
def FirstFailure (site : Site) (lines : List Bytes) (stop : Stop Failure) : Prop :=
  ∃ before line after filled, lines = before ++ line :: after ∧
    (processLines 1 before site {}).result = .ok filled ∧
    (processRaw (before.length + 1) line site (processLines 1 before site {}).cache).result =
      .error stop

theorem processLines_error_iff (n : Nat) (lines : List Bytes) (stop : Stop Failure) :
    (processLines n lines site cache).result = .error stop ↔
      ∃ before line after filled, lines = before ++ line :: after ∧
        (processLines n before site cache).result = .ok filled ∧
        (processRaw (n + before.length) line site (processLines n before site cache).cache).result =
          .error stop := by
  constructor
  · intro h
    induction lines generalizing n cache with
    | nil => simp [processLines, pure_apply] at h
    | cons line lines ih =>
      rw [processLines_cons, bind_result_eq_error_iff] at h
      rcases h with h | ⟨out, hout, h⟩
      · exact ⟨[], line, lines, [], rfl, rfl, h⟩
      · rw [bind_result_eq_error_iff] at h
        rcases h with h | ⟨more, -, h⟩
        · obtain ⟨before, line', after, filled, rfl, hfilled, hfail⟩ := ih (n + 1) h
          obtain ⟨hresult, hcache⟩ := processLines_cons_of_ok hout hfilled
          have hnumber : n + (line :: before).length = n + 1 + before.length := by
            simp only [List.length_cons]
            omega
          refine ⟨line :: before, line', after, out ++ lineFeed :: filled, rfl, hresult, ?_⟩
          rw [hcache, hnumber]
          exact hfail
        · simp [pure_apply] at h
  · rintro ⟨before, line, after, filled, rfl, hfilled, hfail⟩
    rw [processLines_append, bind_of_ok hfilled]
    simp only [processLines_cons]
    rw [bind_of_error (by rw [bind_of_error hfail])]

theorem firstFailure_iff {lines : List Bytes} {stop : Stop Failure} :
    FirstFailure site lines stop ↔ (processLines 1 lines site {}).result = .error stop := by
  rw [processLines_error_iff]
  simp only [FirstFailure, Nat.add_comm 1]

/-- Where all lines have been filled, each of them has. -/
theorem processRaw_ok_of_mem {n : Nat} {lines : List Bytes} {out : Bytes}
    (h : (processLines n lines site cache).result = .ok out) {line : Bytes} (hline : line ∈ lines) :
    ∃ m state filled, (processRaw m line site state).result = .ok filled := by
  induction lines generalizing n cache out with
  | nil => contradiction
  | cons first lines ih =>
    rw [processLines_cons, bind_result_eq_ok_iff] at h
    obtain ⟨filled, hfilled, h⟩ := h
    obtain ⟨more, hmore, -⟩ := bind_result_eq_ok_iff.mp h
    rcases List.mem_cons.mp hline with rfl | hline
    · exact ⟨n, cache, filled, hfilled⟩
    · exact ih hmore hline

/-- A stream comes to nothing as its lines do, or else as reading it fails. -/
theorem processAll_error_iff {input : Input} {stop : Stop Failure} :
    (processAll input site cache).result = .error stop ↔
      (processLines 1 input.lines site cache).result = .error stop ∨
        ∃ filled reason, (processLines 1 input.lines site cache).result = .ok filled ∧
          input.fault = some reason ∧ stop = .failure (.io reason) := by
  rw [processAll, bind_result_eq_error_iff]
  cases input.fault with
  | some reason =>
    simp [Action.fail, Action.ofResult, Except.mapError, eq_comm]
  | none => simp [pure_apply]

/-- What becomes of a line that is processed alone. -/
def Segment (site : Site) (line segment : Bytes) : Prop :=
  (processAll { bytes := line ++ [lineFeed] } site {}).result = .ok segment

theorem processAll_of_no_fault {input : Input} (h : input.fault = none) :
    processAll input = processLines 1 input.lines := by
  rw [processAll, h]
  exact bind_pure _

theorem segment_iff {line segment : Bytes} (hline : lineFeed ∉ line) :
    Segment site line segment ↔
      ∃ out, (processRaw 1 line site {}).result = .ok out ∧ segment = out ++ [lineFeed] := by
  have hlines : ({ bytes := line ++ [lineFeed] } : Input).lines = [line] := by
    have := Input.lines_terminated [line] [] (by simpa using hline) List.not_mem_nil none
    simpa [terminated] using this
  rw [Segment, processAll_of_no_fault rfl, hlines, processLines_cons, bind_result_eq_ok_iff]
  constructor
  · rintro ⟨out, hout, h⟩
    refine ⟨out, hout, ?_⟩
    simpa [processLines, pure_apply, eq_comm] using h
  · rintro ⟨out, hout, rfl⟩
    exact ⟨out, hout, by simp [processLines, pure_apply]⟩

/-- Lines come to their segments, whatever has been loaded before at the same site. -/
theorem processLines_ok_iff (hcache : cache.Extends site {}) (n : Nat) {lines : List Bytes}
    (hlines : ∀ line ∈ lines, lineFeed ∉ line) (out : Bytes) :
    (processLines n lines site cache).result = .ok out ↔
      ∃ segments, List.Forall₂ (Segment site) lines segments ∧ out = segments.flatten := by
  induction lines generalizing n cache out with
  | nil =>
    simp only [List.forall₂_nil_left_iff, exists_eq_left, List.flatten_nil]
    exact ⟨fun h => (Except.ok.inj h).symm, fun h => congrArg Except.ok h.symm⟩
  | cons line lines ih =>
    obtain ⟨hresult, -, hnext⟩ := (composed_processRaw n line).steady site {} cache hcache
    have hline := hlines line List.mem_cons_self
    have hrest := fun l hl => hlines l (List.mem_cons_of_mem _ hl)
    rw [processLines_cons, bind_result_eq_ok_iff]
    constructor
    · rintro ⟨filled, hfilled, h⟩
      obtain ⟨more, hmore, h⟩ := bind_result_eq_ok_iff.mp h
      obtain ⟨segments, hsegments, rfl⟩ := (ih hnext (n + 1) hrest more).mp hmore
      have hout : filled ++ lineFeed :: segments.flatten = out := by
        simpa [pure_apply] using h
      rw [hresult, processRaw_ok_iff n 1] at hfilled
      refine ⟨(filled ++ [lineFeed]) :: segments, .cons ?_ hsegments, by simp [← hout]⟩
      exact (segment_iff hline).mpr ⟨filled, hfilled, rfl⟩
    · rintro ⟨_ | ⟨segment, segments⟩, hall, rfl⟩
      · cases hall
      · obtain ⟨hsegment, hsegments⟩ := List.forall₂_cons.mp hall
        obtain ⟨filled, hfilled, rfl⟩ := (segment_iff hline).mp hsegment
        rw [processRaw_ok_iff 1 n, ← hresult] at hfilled
        have hmore := (ih hnext (n + 1) hrest segments.flatten).mpr ⟨segments, hsegments, rfl⟩
        refine ⟨filled, hfilled, bind_result_eq_ok_iff.mpr ⟨segments.flatten, hmore, ?_⟩⟩
        simp [pure_apply]

end Infill
