import Infill.Proofs.Stream

/-!
# What has been done before does not show

A processor keeps the session and the settings once they have been loaded.  At a site that does not
change this cannot be seen: whatever lines and streams have been processed before, and however they
came out, a line or a stream comes to what it comes to at the start.
-/

namespace Infill

variable [Pattern.Limit]

/-- What a processor can have loaded: nothing at the start, and then what lines and streams leave
behind, also those that fail. -/
inductive Reached (site : Site) : Cache → Prop
  | start : Reached site {}
  | line {cache : Cache} (line : Text) (reached : Reached site cache) :
      Reached site (processLine line site cache).cache
  | stream {cache : Cache} (input : Input) (reached : Reached site cache) :
      Reached site (processAll input site cache).cache

namespace Reached

variable {site : Site} {cache : Cache}

/-- All that has been loaded is what loading at the site gives. -/
theorem extends_start (h : Reached site cache) : cache.Extends site {} := by
  induction h with
  | start => exact .refl site {}
  | line line _ ih => exact (steady_processLine line site {} _ ih).2.2
  | stream input _ ih => exact (steady_processAll input site {} _ ih).2.2

theorem session_eq (h : Reached site cache) {s : Session} (hs : cache.session = some s) :
    Session.ofEnvironment site.world.environment = .ok s := by
  rcases h.extends_start.session with hnone | ⟨-, s', hload, hs'⟩
  · simp [hs] at hnone
  · rw [hs, Option.some_inj] at hs'
    rw [hs', hload]

theorem settings_eq (h : Reached site cache) {s : Settings} (hs : cache.settings = some s) :
    Settings.load site.world.disk site.settingsPath = .ok s := by
  rcases h.extends_start.settings with hnone | ⟨-, s', hload, hs'⟩
  · simp [hs] at hnone
  · rw [hs, Option.some_inj] at hs'
    rw [hs', hload]

/-- A stream succeeds if it can be read to its end and each of its lines succeeds alone, and it
comes to the segments of its lines. -/
theorem processAll_ok_iff (h : Reached site cache) (input : Input) (out : Bytes) :
    (processAll input site cache).result = .ok out ↔
      input.fault = none ∧
        ∃ segments, List.Forall₂ (Segment site) input.lines segments ∧ out = segments.flatten := by
  cases hfault : input.fault with
  | none =>
    rw [processAll_of_no_fault hfault,
      processLines_ok_iff h.extends_start 1 input.lineFeed_not_mem_lines]
    simp
  | some reason =>
    simp only [reduceCtorEq, false_and, iff_false]
    rw [processAll, Action.bind_result_eq_ok_iff, hfault]
    rintro ⟨filled, -, hfail⟩
    simp [Action.fail, Action.ofResult, Except.mapError] at hfail

end Reached

/-- The segment of a line that succeeds alone. -/
def segmentOf (site : Site) (line : Bytes) : Bytes :=
  match (processAll { bytes := line ++ [lineFeed] } site {}).result with
  | .ok segment => segment
  | .error _ => []

variable {site : Site}

theorem Segment.eq_segmentOf {line segment : Bytes} (h : Segment site line segment) :
    segmentOf site line = segment := by
  have hresult : (processAll { bytes := line ++ [lineFeed] } site {}).result = .ok segment := h
  simp only [segmentOf, hresult]

theorem forall₂_segment_iff {lines segments : List Bytes} :
    List.Forall₂ (Segment site) lines segments ↔
      (∀ line ∈ lines, Segment site line (segmentOf site line)) ∧
        segments = lines.map (segmentOf site) := by
  constructor
  · intro h
    induction h with
    | nil => simp
    | @cons line segment lines segments hline _ ih =>
      obtain ⟨hlines, rfl⟩ := ih
      have heq := hline.eq_segmentOf
      refine ⟨?_, by rw [List.map_cons, heq]⟩
      intro l hl
      rcases List.mem_cons.mp hl with rfl | hl
      · exact heq ▸ hline
      · exact hlines l hl
  · rintro ⟨hlines, rfl⟩
    rw [List.forall₂_map_right_iff, List.forall₂_same]
    exact hlines

/-- The lines of a stream that succeeds can come in any order. -/
theorem Reached.processAll_perm {cache cache' : Cache} (h : Reached site cache)
    (h' : Reached site cache') {input input' : Input} {out : Bytes}
    (hout : (processAll input site cache).result = .ok out) (hfault : input'.fault = none)
    (hperm : input'.lines.Perm input.lines) :
    (∀ line ∈ input.lines, Segment site line (segmentOf site line)) ∧
      out = input.lines.flatMap (segmentOf site) ∧
      (processAll input' site cache').result = .ok (input'.lines.flatMap (segmentOf site)) := by
  obtain ⟨-, segments, hsegments, rfl⟩ := (h.processAll_ok_iff input out).mp hout
  obtain ⟨hlines, rfl⟩ := forall₂_segment_iff.mp hsegments
  refine ⟨hlines, List.flatMap_def.symm, ?_⟩
  rw [h'.processAll_ok_iff]
  refine ⟨hfault, input'.lines.map (segmentOf site), forall₂_segment_iff.mpr ⟨?_, rfl⟩,
    List.flatMap_def⟩
  intro line hline
  exact hlines line (hperm.mem_iff.mp hline)

/-- What has been loaded before does not show, and a stream is the sequence of its segments. -/
theorem history_does_not_show (site : Site) :
    (∀ cache, Reached site cache →
      (∀ s, cache.session = some s → Session.ofEnvironment site.world.environment = .ok s) ∧
      (∀ s, cache.settings = some s →
        Settings.load site.world.disk site.settingsPath = .ok s) ∧
      (∀ line, (processLine line site cache).result = (processLine line site {}).result ∧
        (processLine line site cache).events = (processLine line site {}).events) ∧
      (∀ input, (processAll input site cache).result = (processAll input site {}).result ∧
        (processAll input site cache).events = (processAll input site {}).events) ∧
      (∀ input out, (processAll input site cache).result = .ok out ↔
        input.fault = none ∧
          ∃ segments, List.Forall₂ (Segment site) input.lines segments ∧
            out = segments.flatten)) ∧
    (∀ cache cache' input input' out, Reached site cache → Reached site cache' →
      (processAll input site cache).result = .ok out → input'.fault = none →
      input'.lines.Perm input.lines →
      ∃ segment : Bytes → Bytes, (∀ line ∈ input.lines, Segment site line (segment line)) ∧
        out = input.lines.flatMap segment ∧
        (processAll input' site cache').result = .ok (input'.lines.flatMap segment)) := by
  constructor
  · intro cache h
    refine ⟨fun s => h.session_eq, fun s => h.settings_eq, ?_, ?_, h.processAll_ok_iff⟩
    · intro line
      obtain ⟨hresult, hevents, -⟩ := steady_processLine line site {} cache h.extends_start
      exact ⟨hresult, hevents⟩
    · intro input
      obtain ⟨hresult, hevents, -⟩ := steady_processAll input site {} cache h.extends_start
      exact ⟨hresult, hevents⟩
  · intro cache cache' input input' out h h' hout hfault hperm
    exact ⟨segmentOf site, h.processAll_perm h' hout hfault hperm⟩

end Infill
