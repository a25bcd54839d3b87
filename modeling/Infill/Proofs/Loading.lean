import Infill.Proofs.Resource

/-!
# What is loaded is loaded once

A processor works through jobs while the world around it changes.  What it has loaded of a resource
is kept through all of that, and comes from the first job that needed the resource and could load it
(`FirstLoad`).  A job that cannot load what it needs fails and leaves nothing behind, and once a
resource has been loaded nothing shows any more of what happens where it was loaded from.
-/

namespace Infill

open Infill.Action

namespace Resource

/-- An action that begins with a resource needs it. -/
theorem needs_fetch_bind {α : Type} (r : Resource) (next : r.Value → Action α) (site : Site)
    (cache : Cache) : r.Needs (r.fetch >>= next) site cache := by
  obtain ⟨source, source', f, f', hf, hf', hne⟩ := r.exists_load_error_ne site
  have hfails : ∀ source f, r.load (r.withSource source site) = .error f →
      ((r.fetch >>= next) (r.withSource source site) (r.hold none cache)).result =
        .error (.failure f) := by
    intro source f hload
    rw [bind_of_error (e := .failure f)]
    rw [fetch_of_not_held (held_hold _), hload]
  refine ⟨source, source', fun heq => hne ?_⟩
  have hresult := congrArg Outcome.result heq
  rw [hfails source f hf, hfails source' f' hf'] at hresult
  exact Stop.failure.inj (Except.error.inj hresult)

end Resource

variable [Pattern.Limit]

/-- Something a processor is asked to do. -/
inductive Job
  | line (line : Text)
  | stream (input : Input)
  | secret (path key : Text)
  | reference (key : Text)

/-- What comes of a job that succeeds. -/
inductive Answer
  | text (t : Text)
  | bytes (b : Bytes)

def Job.action : Job → Action Answer
  | line t => Answer.text <$> processLine t
  | stream input => Answer.bytes <$> processAll input
  | secret path key => Answer.text <$> resolveSecret path key
  | reference key => Answer.text <$> resolveReference key

theorem Job.composed (job : Job) : Composed job.action := by
  cases job with
  | line t => exact (composed_processLine t).map _
  | stream input => exact (composed_processAll input).map _
  | secret path key => exact (composed_resolveSecret path key).map _
  | reference key => exact (composed_resolveReference key).map _

/-- A job, or a change of the world around the processor. -/
inductive Step
  | job (job : Job)
  | environment (change : Environment → Environment)
  | files (change : Disk → Disk)
  | store (change : (Request → Except Text Response) → Request → Except Text Response)

/-- A processor at its site, with what it has loaded. -/
structure Processor where
  site : Site
  cache : Cache := {}

/-- What is seen of a job. -/
structure Report where
  result : Except (Stop Failure) Answer
  events : List Event

namespace Processor

def outcome (p : Processor) (job : Job) : Outcome Answer := job.action p.site p.cache

def report (p : Processor) (job : Job) : Report :=
  { result := (p.outcome job).result, events := (p.outcome job).events }

/-- The processor after a step. -/
def after (p : Processor) : Step → Processor
  | .job job => { p with cache := (p.outcome job).cache }
  | .environment change =>
    { p with site := Resource.session.withSource (change p.site.world.environment) p.site }
  | .files change =>
    { p with site := Resource.settings.withSource (change p.site.world.disk) p.site }
  | .store change =>
    { p with site :=
        { p.site with world := { p.site.world with answer := change p.site.world.answer } } }

/-- The processor after steps in order. -/
def run (p : Processor) (steps : List Step) : Processor := steps.foldl after p

/-- What is seen of the jobs among steps in order. -/
def reports : Processor → List Step → List Report
  | _, [] => []
  | p, .job job :: rest => p.report job :: (p.after (.job job)).reports rest
  | p, step :: rest => (p.after step).reports rest

end Processor

namespace Resource

/-- Whether a step changes what the resource is loaded from. -/
def changedBy : Resource → Step → Bool
  | session, .environment _ => true
  | settings, .files _ => true
  | _, _ => false

/-- A step is a job that needs the resource and can load the value. -/
def LoadedBy (r : Resource) (p : Processor) (step : Step) (value : r.Value) : Prop :=
  ∃ job, step = .job job ∧ r.Needs job.action p.site p.cache ∧ r.load p.site = .ok value

/-- The value comes from the first of the steps that needs the resource and can load it, from the
world as it is then. -/
inductive FirstLoad (r : Resource) : Processor → List Step → r.Value → Prop
  | now {p : Processor} {step : Step} {rest : List Step} {value : r.Value}
      (loads : r.LoadedBy p step value) : FirstLoad r p (step :: rest) value
  | later {p : Processor} {step : Step} {rest : List Step} {value : r.Value}
      (loadsNothing : ∀ other, ¬ r.LoadedBy p step other)
      (more : FirstLoad r (p.after step) rest value) : FirstLoad r p (step :: rest) value

section Steps

variable {r : Resource} {p : Processor} {step : Step} {value : r.Value}

theorem held_after (h : r.held p.cache = some value) : r.held (p.after step).cache = some value := by
  cases step with
  | job job => exact ((job.composed.handles r p.site p.cache).of_held h (r.source p.site)).2
  | environment => exact h
  | files => exact h
  | store => exact h

theorem held_run (steps : List Step) (h : r.held p.cache = some value) :
    r.held (p.run steps).cache = some value := by
  induction steps generalizing p with
  | nil => exact h
  | cons step steps ih => exact ih (held_after h)

theorem held_after_iff (hnone : r.held p.cache = none) :
    r.held (p.after step).cache = some value ↔ r.LoadedBy p step value := by
  cases step with
  | job job =>
    have handles := job.composed.handles r p.site p.cache
    constructor
    · intro h
      have hneeds : r.Needs job.action p.site p.cache := by
        refine Classical.byContradiction fun hspared => ?_
        have hstill := handles.of_not_needs hspared hnone
        rw [Processor.after, Processor.outcome, hstill] at h
        contradiction
      obtain ⟨hloads, hfails⟩ := handles.of_needs hneeds hnone
      refine ⟨job, rfl, hneeds, ?_⟩
      cases hload : r.load p.site with
      | error f =>
        rw [Processor.after, Processor.outcome, (hfails f hload).2] at h
        contradiction
      | ok other =>
        rw [Processor.after, Processor.outcome, hloads other hload, Option.some_inj] at h
        rw [h]
    · rintro ⟨job', hjob, hneeds, hload⟩
      obtain rfl := Step.job.inj hjob
      exact (handles.of_needs hneeds hnone).1 value hload
  | environment => simp [Processor.after, LoadedBy, hnone]
  | files => simp [Processor.after, LoadedBy, hnone]
  | store => simp [Processor.after, LoadedBy, hnone]

theorem held_run_iff (steps : List Step) (hnone : r.held p.cache = none) :
    r.held (p.run steps).cache = some value ↔ r.FirstLoad p steps value := by
  induction steps generalizing p with
  | nil =>
    simp only [Processor.run, List.foldl_nil, hnone, reduceCtorEq, false_iff]
    intro h
    cases h
  | cons step steps ih =>
    have hrun : p.run (step :: steps) = (p.after step).run steps := rfl
    rw [hrun]
    cases hafter : r.held (p.after step).cache with
    | some other =>
      have hother := (held_after_iff hnone).mp hafter
      rw [held_run steps hafter, Option.some_inj]
      constructor
      · rintro rfl
        exact .now hother
      · intro h
        cases h with
        | now loads =>
          have hvalue := (held_after_iff hnone).mpr loads
          rwa [hafter, Option.some_inj] at hvalue
        | later loadsNothing => exact absurd hother (loadsNothing other)
    | none =>
      have hnothing : ∀ other, ¬ r.LoadedBy p step other := by
        intro other hother
        rw [(held_after_iff hnone).mpr hother] at hafter
        contradiction
      rw [ih hafter]
      constructor
      · exact .later hnothing
      · intro h
        cases h with
        | now loads => exact absurd loads (hnothing value)
        | later _ more => exact more

/-- Once a value has been loaded, leaving out the changes of what it was loaded from makes no
difference, nor does any such change before. -/
theorem reports_eq_reports_filter {p' : Processor} (steps : List Step)
    (h : r.held p.cache = some value) (hcache : p'.cache = p.cache)
    (hsite : ∃ source, p'.site = r.withSource source p.site) :
    p.reports steps = p'.reports (steps.filter fun step => !r.changedBy step) := by
  induction steps generalizing p p' with
  | nil => rfl
  | cons step steps ih =>
    obtain ⟨site, cache⟩ := p
    obtain ⟨site', cache'⟩ := p'
    obtain ⟨source, rfl⟩ := hsite
    obtain rfl : cache' = cache := hcache
    have hafter : r.held (Processor.after { site, cache := cache' } step).cache = some value :=
      held_after h
    cases step with
    | job job =>
      have hsame := ((job.composed.handles r site cache').of_held h source).1
      have hkeep : (Step.job job :: steps).filter (fun step => !r.changedBy step) =
          .job job :: steps.filter fun step => !r.changedBy step := by
        cases r <;> rfl
      have hreport : Processor.report { site := r.withSource source site, cache := cache' } job =
          Processor.report { site, cache := cache' } job := by
        simp only [Processor.report, Processor.outcome, hsame]
      have hnext : (Processor.after { site := r.withSource source site, cache := cache' }
          (.job job)).cache = (Processor.after { site, cache := cache' } (.job job)).cache := by
        simp only [Processor.after, Processor.outcome, hsame]
      rw [hkeep, Processor.reports, Processor.reports, hreport, ih hafter hnext ⟨source, rfl⟩]
    | environment change =>
      cases r with
      | session => exact ih hafter rfl ⟨source, rfl⟩
      | settings => exact ih hafter rfl ⟨source, rfl⟩
    | files change =>
      cases r with
      | session => exact ih hafter rfl ⟨source, rfl⟩
      | settings => exact ih hafter rfl ⟨source, rfl⟩
    | store change =>
      cases r with
      | session => exact ih hafter rfl ⟨source, rfl⟩
      | settings => exact ih hafter rfl ⟨source, rfl⟩

end Steps

end Resource

/-- How a processor deals with a resource while it works and the world changes. -/
structure LoadsOnce (r : Resource) : Prop where
  kept : ∀ (p : Processor) steps value, r.held p.cache = some value →
    r.held (p.run steps).cache = some value
  unset : ∀ (p : Processor) job f, r.held p.cache = none →
    r.Needs job.action p.site p.cache → r.load p.site = .error f →
    (p.report job).result = .error (.failure f) ∧ r.held (p.after (.job job)).cache = none
  retried : ∀ (p : Processor) job value, r.held p.cache = none →
    r.Needs job.action p.site p.cache → r.load p.site = .ok value →
    r.held (p.after (.job job)).cache = some value
  firstLoad : ∀ (p : Processor) steps value, r.held p.cache = none →
    (r.held (p.run steps).cache = some value ↔ r.FirstLoad p steps value)
  unobserved : ∀ (p : Processor) steps steps' value, r.held p.cache = some value →
    (steps.filter fun step => !r.changedBy step) = (steps'.filter fun step => !r.changedBy step) →
    p.reports steps = p.reports steps'

/-- The session and the settings are loaded by the first job that needs them and can load them, and
nothing that happens afterwards changes or shows in what has been loaded. -/
theorem resources_load_once :
    (∀ r, LoadsOnce r) ∧
    (∀ path key site cache, Resource.session.Needs (Job.secret path key).action site cache) ∧
    (∀ key site cache, Resource.settings.Needs (Job.reference key).action site cache) := by
  refine ⟨fun r => ?_, ?_, ?_⟩
  · constructor
    · intro p steps value h
      exact Resource.held_run steps h
    · intro p job f hnone hneeds hload
      exact ((job.composed.handles r p.site p.cache).of_needs hneeds hnone).2 f hload
    · intro p job value hnone hneeds hload
      exact ((job.composed.handles r p.site p.cache).of_needs hneeds hnone).1 value hload
    · intro p steps value hnone
      exact Resource.held_run_iff steps hnone
    · intro p steps steps' value h hsame
      have hsite : ∃ source, p.site = r.withSource source p.site :=
        ⟨r.source p.site, r.withSource_source.symm⟩
      rw [Resource.reports_eq_reports_filter steps h rfl hsite, hsame,
        Resource.reports_eq_reports_filter steps' h rfl hsite]
  · intro path key
    have haction : (Job.secret path key).action = Resource.session.fetch >>= fun s =>
        (readField s path key).orIfMissing [] >>= fun t => pure (Answer.text t) :=
      bind_assoc Action.session _ _
    rw [haction]
    exact Resource.session.needs_fetch_bind _
  · intro key
    have haction : (Job.reference key).action = Resource.settings.fetch >>= fun s =>
        pure ((s.get? key).getD []) >>= fun t => pure (Answer.text t) :=
      bind_assoc Action.settings _ _
    rw [haction]
    exact Resource.settings.needs_fetch_bind _

end Infill
