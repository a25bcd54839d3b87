import Infill.Proofs.Answer
import Infill.Proofs.Run
import Infill.Proofs.Trace

/-!
# How lines, streams and runs fail

The lookups of a line are made in order, up to a setting that breaks off, and the line fails as the
first of them that fails (`Lookup.processLine_eq_failure_iff`).  A lookup fails without a session, without
settings or by a refusal, and in every other case it gives a text, which is empty for what is not there
(`Lookup.comesTo_run`).  A stream and a run have a few kinds of failures more, and that something is not
there is none of them (`failures_classified`).
-/

namespace Infill

open Infill.Action

/-- The failures of a line. -/
inductive Failure.OfLine : Failure → Prop
  | configurationMissing (name : Text) : OfLine (.configurationMissing name)
  | sourceUnreadable (path : Path) (reason : Text) : OfLine (.sourceUnreadable path reason)
  | transport (reason : Text) : OfLine (.transport reason)

/-- The failures of a stream. -/
inductive Failure.OfStream : Failure → Prop
  | line {f : Failure} (line : OfLine f) : OfStream f
  | invalidInput (reason : Text) : OfStream (.invalidInput reason)
  | io (reason : Text) : OfStream (.io reason)

/-- The failures of a run with a descriptor. -/
inductive RunFailure.OfRun (path : Path) : RunFailure → Prop
  | descriptor (reason : Text) : OfRun path (.descriptor path (.descriptorInvalid reason))
  | stream {f : Failure} (stream : f.OfStream) : OfRun path (.stream f)
  | output (reason : Text) : OfRun path (.output reason)

theorem Failure.OfStream.isNotFound {f : Failure} (h : f.OfStream) : f.isNotFound = false := by
  rcases h with ⟨_ | _ | _⟩ | _ | _ <;> rfl

theorem Descriptor.invalid_of_load {disk : Disk} {path : Path} {f : Failure}
    (h : Descriptor.load disk path = .error f) : ∃ reason, f = .descriptorInvalid reason := by
  rw [load] at h
  split at h
  · exact ⟨_, (Except.error.inj h).symm⟩
  · rw [parse] at h
    split at h
    · contradiction
    · simp only at h
      split at h
      · contradiction
      · exact ⟨_, (Except.error.inj h).symm⟩

/-- A lookup on the way from a line to its text. -/
inductive Lookup
  | field (path key : Text)
  | setting (key : Text)

/-- The settings at hand, none of them if the key-value file cannot be used. -/
def settingsAtHand (site : Site) (cache : Cache) : Settings :=
  match (Action.settings site cache).result with
  | .ok s => s
  | .error _ => { entries := [] }

namespace Lookup

def run : Lookup → Action Text
  | field path key => resolveSecret path key
  | setting key => resolveReference key

def ofField (field : Text × Text) : Lookup := .field field.1 field.2

/-- Why the lookup comes to nothing, if it does. -/
def stop? (site : Site) (cache : Cache) (l : Lookup) : Option (Stop Failure) :=
  (l.run site cache).trace.stop

variable {site : Site} {cache : Cache}

theorem stop?_eq_some_iff {l : Lookup} {stop : Stop Failure} :
    l.stop? site cache = some stop ↔ (l.run site cache).result = .error stop :=
  trace_stop_eq_some_iff

theorem stop?_eq_none_iff {l : Lookup} :
    l.stop? site cache = none ↔ ∃ t, (l.run site cache).result = .ok t :=
  trace_stop_eq_none_iff

theorem stop?_ofField {s : Session} (hs : (Action.session site cache).result = .ok s)
    (field : Text × Text) :
    (ofField field).stop? site cache =
      (Secret.fatal? site.world.answer s field).map .failure := by
  rw [stop?, ofField, run, resolveSecret_of_session hs, trace_readField]

theorem stop?_ofField_of_no_session {stop : Stop Failure}
    (hstop : (Action.session site cache).result = .error stop) (field : Text × Text) :
    (ofField field).stop? site cache = some stop := by
  rw [stop?_eq_some_iff, ofField, run, resolveSecret_of_no_session hstop]

theorem stop?_setting {s : Settings} (hs : (Action.settings site cache).result = .ok s)
    (key : Text) : (setting key).stop? site cache = none := by
  rw [stop?_eq_none_iff, run, resolveReference_of_settings hs]
  exact ⟨_, rfl⟩

theorem stop?_setting_of_no_settings {stop : Stop Failure}
    (hstop : (Action.settings site cache).result = .error stop) (key : Text) :
    (setting key).stop? site cache = some stop := by
  rw [stop?_eq_some_iff, run, resolveReference_of_no_settings hstop]

theorem findSome?_fields (fields : List (Text × Text)) :
    (fields.map ofField).findSome? (stop? site cache) =
      (Trace.ofFields site cache fields).stop := by
  rw [List.findSome?_map, Trace.ofFields]
  cases fields with
  | nil => rfl
  | cons field fields =>
    rw [if_neg (List.cons_ne_nil _ _)]
    cases hsession : (Action.session site cache).result with
    | error stop =>
      rw [List.findSome?_cons, Function.comp_apply, stop?_ofField_of_no_session hsession]
    | ok s =>
      have hsame : stop? site cache ∘ ofField =
          fun field => (Secret.fatal? site.world.answer s field).map .failure :=
        funext (stop?_ofField hsession)
      rw [hsame]
      exact List.map_findSome?.symm

/-- What has been loaded of the settings makes no difference to lookups of fields. -/
theorem stop_ofFields_of_settings (settings : Option Settings) (fields : List (Text × Text)) :
    (Trace.ofFields site { cache with settings } fields).stop =
      (Trace.ofFields site cache fields).stop := by
  have hsession : (Action.session site { cache with settings }).result =
      (Action.session site cache).result := by
    simp only [Action.session]
    cases cache.session with
    | some s => rfl
    | none => cases Session.ofEnvironment site.world.environment <;> rfl
  simp only [Trace.ofFields, hsession]
  split
  · rfl
  · split <;> rfl

/-- With the settings there, looking them up comes to something, and only the fields in their values
are left to stop at. -/
theorem findSome?_settings {s : Settings} (hs : (Action.settings site cache).result = .ok s)
    (keys : List Text) :
    (keys.flatMap fun key =>
        setting key :: (fieldsIn ((s.get? key).getD [])).map ofField).findSome?
        (stop? site cache) =
      (Trace.ofFields site cache (keys.flatMap fun key => fieldsIn ((s.get? key).getD []))).stop := by
  rw [← findSome?_fields]
  induction keys with
  | nil => rfl
  | cons key keys ih =>
    rw [List.flatMap_cons, List.flatMap_cons, List.cons_append, List.findSome?_cons,
      stop?_setting hs, List.map_append, List.findSome?_append, List.findSome?_append, ih]

/-- Makes lookups in order. -/
def runAll (lookups : List Lookup) : Action (List Text) := lookups.mapM run

theorem composed_run (l : Lookup) : Composed l.run := by
  cases l with
  | field path key => exact composed_resolveSecret path key
  | setting key => exact composed_resolveReference key

theorem withinBounds_run (l : Lookup) : WithinBounds l.run := by
  cases l with
  | field path key => exact withinBounds_resolveSecret path key
  | setting key => exact withinBounds_resolveReference key

theorem runAll_cons (l : Lookup) (ls : List Lookup) :
    runAll (l :: ls) = l.run >>= fun t => runAll ls >>= fun ts => pure (t :: ts) := List.mapM_cons

theorem composed_runAll (lookups : List Lookup) : Composed (runAll lookups) := by
  induction lookups with
  | nil => exact .pure _
  | cons l ls ih =>
    rw [runAll_cons]
    exact .bind (composed_run l) fun _ => .bind ih fun _ => .pure _

/-- Lookups succeed in order if each of them succeeds. -/
theorem runAll_ok_iff {base : Cache} (hcache : cache.Extends site base) (lookups : List Lookup) :
    (∃ values, (runAll lookups site cache).result = .ok values) ↔
      ∀ l ∈ lookups, ∃ t, (l.run site base).result = .ok t := by
  induction lookups generalizing cache with
  | nil => simp [runAll, pure_apply]
  | cons l ls ih =>
    -- The first lookup can load something, which makes no difference to the others.
    obtain ⟨hresult, -, hnext⟩ := (composed_run l).steady site base cache hcache
    simp only [runAll_cons, bind_result_eq_ok_iff, List.forall_mem_cons]
    rw [← ih hnext, hresult]
    constructor
    · rintro ⟨values, t, ht, ts, hts, -⟩
      exact ⟨⟨t, ht⟩, ts, hts⟩
    · rintro ⟨⟨t, ht⟩, ts, hts⟩
      exact ⟨t :: ts, t, ht, ts, hts, rfl⟩

section Reaching

variable [Pattern.Limit]

/-- The lookups of a line in order, unless one of them fails: behind that of a setting come those for
the secrets that the setting holds, and behind a setting that breaks off there are none. -/
def ofLine (site : Site) (cache : Cache) (line : Text) : List Lookup :=
  match dialect? line with
  | none => []
  | some .secret => (fieldsIn line).map ofField
  | some .reference =>
    let value (key : Text) : Text := ((settingsAtHand site cache).get? key).getD []
    (takeThrough (fun key => (Template.ofLine .secret (value key)).breach?.isSome)
      (keysIn line)).flatMap fun key => setting key :: (fieldsIn (value key)).map ofField

/-- The lookup is reached on the way from a line to its text, with this having been loaded: those
before it succeed. -/
def IsReached (site : Site) (cache : Cache) (line : Text) (l : Lookup) (state : Cache) : Prop :=
  ∃ before after values, ofLine site cache line = before ++ l :: after ∧
    (runAll before site cache).result = .ok values ∧ state = (runAll before site cache).cache

theorem ofLine_of_reference {line : Text} (h : dialect? line = some .reference) {s : Settings}
    (hs : (Action.settings site cache).result = .ok s) :
    ofLine site cache line =
      (takeThrough (fun key => (Template.ofLine .secret ((s.get? key).getD [])).breach?.isSome)
        (keysIn line)).flatMap fun key =>
          setting key :: (fieldsIn ((s.get? key).getD [])).map ofField := by
  have hhand : settingsAtHand site cache = s := by simp only [settingsAtHand, hs]
  simp only [ofLine, h, hhand]

/-- Without the settings, the first key that is looked up fails. -/
theorem findSome?_of_no_settings {line : Text} (h : dialect? line = some .reference)
    {stop : Stop Failure} (hstop : (Action.settings site cache).result = .error stop) {key : Text}
    {keys : List Text} (hkeys : keysIn line = key :: keys) :
    (ofLine site cache line).findSome? (stop? site cache) = some stop := by
  have hfirst := stop?_setting_of_no_settings hstop key
  simp only [ofLine, h, hkeys, takeThrough]
  split
  · rw [List.flatMap_cons, List.cons_append, List.findSome?_cons, hfirst]
  · rw [List.flatMap_cons, List.cons_append, List.findSome?_cons, hfirst]

/-- A line fails as the first of its lookups that fails. -/
theorem stop_processLine_eq_failure_iff {line : Text} {f : Failure} :
    (processLine line site cache).trace.stop = some (.failure f) ↔
      (ofLine site cache line).findSome? (stop? site cache) = some (.failure f) := by
  cases hdialect : dialect? line with
  | none =>
    rw [processLine_of_no_dialect hdialect, ofLine, hdialect]
    rfl
  | some d =>
    cases d with
    | secret =>
      rw [trace_processLine_of_secret hdialect, Trace.stop_breakingOff_eq_failure_iff, ofLine,
        hdialect, ← findSome?_fields]
    | reference =>
      rw [trace_processLine_of_reference hdialect, Trace.stop_breakingOff_eq_failure_iff,
        Trace.ofKeys]
      cases hkeys : keysIn line with
      | nil =>
        simp only [ofLine, hdialect, hkeys]
        rfl
      | cons key keys =>
        rw [if_neg (List.cons_ne_nil _ _)]
        cases hsettings : (Action.settings site cache).result with
        | error stop => rw [findSome?_of_no_settings hdialect hsettings hkeys]
        | ok s =>
          -- The keys that are looked at are those whose values are filled.
          simp only [Trace.ofTexts, Trace.stop_breakingOff_eq_failure_iff]
          rw [ofLine_of_reference hdialect hsettings, findSome?_settings hsettings, hkeys,
            stop_ofFields_of_settings, filledUpTo, takeThrough_map, List.flatMap_map]
          rfl

/-- What is reached has no more loaded than what the site gives. -/
theorem IsReached.extends {line : Text} {l : Lookup} {state : Cache}
    (h : IsReached site cache line l state) : state.Extends site cache := by
  obtain ⟨before, -, -, -, -, rfl⟩ := h
  exact ((composed_runAll before).steady site cache cache (.refl site cache)).2.2

/-- A line fails as a lookup fails that is reached. -/
theorem processLine_eq_failure_iff {line : Text} {f : Failure} :
    (processLine line site cache).result = .error (.failure f) ↔
      ∃ l state, IsReached site cache line l state ∧
        (l.run site state).result = .error (.failure f) := by
  rw [← trace_stop_eq_some_iff, stop_processLine_eq_failure_iff, List.findSome?_eq_some_iff]
  simp only [stop?_eq_some_iff, stop?_eq_none_iff]
  constructor
  · rintro ⟨before, l, after, hlookups, hfails, hbefore⟩
    obtain ⟨values, hvalues⟩ := (runAll_ok_iff (.refl site cache) before).mpr hbefore
    have hreached : IsReached site cache line l (runAll before site cache).cache :=
      ⟨before, after, values, hlookups, hvalues, rfl⟩
    obtain ⟨hsame, -, -⟩ := (composed_run l).steady site cache _ hreached.extends
    exact ⟨l, _, hreached, hsame.trans hfails⟩
  · rintro ⟨l, state, hreached, hfails⟩
    obtain ⟨hsame, -, -⟩ := (composed_run l).steady site cache _ hreached.extends
    obtain ⟨before, after, values, hlookups, hvalues, -⟩ := hreached
    exact ⟨before, l, after, hlookups, hsame.symm.trans hfails,
      (runAll_ok_iff (.refl site cache) before).mp ⟨values, hvalues⟩⟩

end Reaching

/-- No session can be had for a lookup, for want of the variable. -/
inductive LacksSession (site : Site) (state : Cache) (name : Text) : Lookup → Prop
  | field (path key : Text) (unset : state.session = none)
      (lacking : Session.FirstLacking site.world.environment name) :
      LacksSession site state name (field path key)

/-- No settings can be had for a lookup. -/
inductive LacksSettings (site : Site) (state : Cache) : Lookup → Prop
  | setting (key : Text) (unset : state.settings = none)
      (unusable : Settings.Unusable site.world.disk site.settingsPath) :
      LacksSettings site state (setting key)

/-- The secret store refuses what is looked up. -/
inductive IsRefused (site : Site) (state : Cache) : Lookup → Prop
  | field (path key : Text) {s : Session} (atHand : Session.AtHand site state s)
      (refused : Secret.Refused site.world.answer s path) : IsRefused site state (field path key)

/-- The text that a lookup gives. -/
inductive Gives (site : Site) (state : Cache) : Lookup → Text → Prop
  | absent {path key : Text} {s : Session} (atHand : Session.AtHand site state s)
      (absent : Secret.Absent site.world.answer s path key) :
      Gives site state (field path key) []
  | present {path key t : Text} {s : Session} (atHand : Session.AtHand site state s)
      (present : Secret.Present site.world.answer s path key t) :
      Gives site state (field path key) t
  | setting (key : Text) {s : Settings} (atHand : Settings.AtHand site state s) :
      Gives site state (setting key) ((s.get? key).getD [])

section Classification

variable {state : Cache} {l : Lookup} {name t : Text}

theorem run_of_lacksSession (h : LacksSession site state name l) :
    (l.run site state).result = .error (.failure (.configurationMissing name)) := by
  obtain ⟨path, key, unset, lacking⟩ := h
  have hfails := Session.session_eq_error_iff.mpr ⟨unset, name, lacking, rfl⟩
  rw [run, resolveSecret_of_no_session hfails]

theorem run_of_lacksSettings (h : LacksSettings site state l) :
    ∃ reason, (l.run site state).result =
      .error (.failure (.sourceUnreadable site.settingsPath reason)) := by
  obtain ⟨key, unset, unusable⟩ := h
  obtain ⟨f, hfails⟩ := Settings.exists_settings_error unset unusable
  obtain ⟨-, -, reason, rfl⟩ := Settings.settings_eq_error hfails
  exact ⟨reason, by rw [run, resolveReference_of_no_settings hfails]⟩

/-- A field is what reading it comes to, and empty if it is not there. -/
theorem run_field_of_atHand {s : Session} (h : Session.AtHand site state s) (path key : Text) :
    ((field path key).run site state).result =
      match Secret.read site.world.answer s path key with
      | .ok t => .ok t
      | .error f => if f.isNotFound then .ok [] else .error (.failure f) := by
  rw [run, resolveSecret_of_session (Session.atHand_iff.mp h), orIfMissing_eq, readField_apply,
    Outcome.orIfMissing]
  cases Secret.read site.world.answer s path key with
  | ok t => rfl
  | error f => cases hmissing : f.isNotFound <;> simp [Except.mapError, Stop.isNotFound, hmissing]

theorem run_of_isRefused (h : IsRefused site state l) :
    ∃ reason, (l.run site state).result = .error (.failure (.transport reason)) := by
  obtain ⟨path, key, atHand, refused⟩ := h
  obtain ⟨reason, hread⟩ := Secret.read_of_refused refused key
  rw [run_field_of_atHand atHand, hread]
  exact ⟨reason, rfl⟩

theorem run_of_gives (h : Gives site state l t) : (l.run site state).result = .ok t := by
  cases h with
  | absent atHand absent =>
    obtain ⟨what, hread⟩ := Secret.read_of_absent absent
    rw [run_field_of_atHand atHand, hread]
    rfl
  | present atHand present =>
    rw [run_field_of_atHand atHand, Secret.read_of_present present]
  | setting key atHand =>
    rw [run, resolveReference_of_settings (Settings.atHand_iff.mp atHand)]

/-- What a lookup comes to, and why. -/
inductive ComesTo (site : Site) (state : Cache) (l : Lookup) :
    Except (Stop Failure) Text → Prop
  | lacksSession {name : Text} (lacks : LacksSession site state name l) :
      ComesTo site state l (.error (.failure (.configurationMissing name)))
  | lacksSettings {reason : Text} (lacks : LacksSettings site state l) :
      ComesTo site state l (.error (.failure (.sourceUnreadable site.settingsPath reason)))
  | refused {reason : Text} (refused : IsRefused site state l) :
      ComesTo site state l (.error (.failure (.transport reason)))
  | given {t : Text} (gives : Gives site state l t) : ComesTo site state l (.ok t)

/-- There is nothing else that a lookup can come to. -/
theorem comesTo_run (site : Site) (state : Cache) (l : Lookup) :
    ComesTo site state l (l.run site state).result := by
  cases l with
  | field path key =>
    cases hsession : (Action.session site state).result with
    | error f =>
      obtain ⟨unset, name, lacking, -⟩ := Session.session_eq_error_iff.mp hsession
      have lacks := LacksSession.field path key unset lacking
      rw [run_of_lacksSession lacks]
      exact .lacksSession lacks
    | ok s =>
      have atHand := Session.atHand_iff.mpr hsession
      rcases Secret.refused_or_absent_or_present site.world.answer s path key with
        refused | absent | ⟨t, present⟩
      · have hrefused := IsRefused.field path key atHand refused
        obtain ⟨reason, hresult⟩ := run_of_isRefused hrefused
        rw [hresult]
        exact .refused hrefused
      · have gives := Gives.absent atHand absent
        rw [run_of_gives gives]
        exact .given gives
      · have gives := Gives.present atHand present
        rw [run_of_gives gives]
        exact .given gives
  | setting key =>
    cases hsettings : (Action.settings site state).result with
    | error f =>
      obtain ⟨unset, unusable, -⟩ := Settings.settings_eq_error hsettings
      have lacks := LacksSettings.setting key unset unusable
      obtain ⟨reason, hresult⟩ := run_of_lacksSettings lacks
      rw [hresult]
      exact .lacksSettings lacks
    | ok s =>
      have gives := Gives.setting key (Settings.atHand_iff.mpr hsettings)
      rw [run_of_gives gives]
      exact .given gives

/-- A result that a lookup has is one that it can come to. -/
theorem comesTo_of_run {result : Except (Stop Failure) Text} (h : (l.run site state).result = result) :
    ComesTo site state l result :=
  h ▸ comesTo_run site state l

theorem run_eq_configurationMissing_iff :
    (l.run site state).result = .error (.failure (.configurationMissing name)) ↔
      LacksSession site state name l := by
  refine ⟨fun h => ?_, run_of_lacksSession⟩
  cases comesTo_of_run h with
  | lacksSession lacks => exact lacks

theorem run_eq_sourceUnreadable_iff {path : Path} :
    (∃ reason, (l.run site state).result = .error (.failure (.sourceUnreadable path reason))) ↔
      path = site.settingsPath ∧ LacksSettings site state l := by
  constructor
  · rintro ⟨reason, h⟩
    cases comesTo_of_run h with
    | lacksSettings lacks => exact ⟨rfl, lacks⟩
  · rintro ⟨rfl, lacks⟩
    exact run_of_lacksSettings lacks

theorem run_eq_transport_iff :
    (∃ reason, (l.run site state).result = .error (.failure (.transport reason))) ↔
      IsRefused site state l := by
  refine ⟨?_, run_of_isRefused⟩
  rintro ⟨reason, h⟩
  cases comesTo_of_run h with
  | refused refused => exact refused

theorem run_eq_ok_iff : (l.run site state).result = .ok t ↔ Gives site state l t := by
  refine ⟨fun h => ?_, run_of_gives⟩
  cases comesTo_of_run h with
  | given gives => exact gives

theorem ofLine_of_run {f : Failure} (h : (l.run site state).result = .error (.failure f)) :
    f.OfLine := by
  cases comesTo_of_run h with
  | lacksSession lacks => exact .configurationMissing _
  | lacksSettings lacks => exact .sourceUnreadable _ _
  | refused refused => exact .transport _

end Classification

end Lookup

section Kinds

variable [Pattern.Limit] {site : Site} {cache : Cache} {f : Failure}

theorem ofLine_of_processLine {line : Text}
    (h : (processLine line site cache).result = .error (.failure f)) : f.OfLine := by
  obtain ⟨l, state, -, hfails⟩ := Lookup.processLine_eq_failure_iff.mp h
  exact Lookup.ofLine_of_run hfails

theorem ofStream_of_processRaw {number : Nat} {line : Bytes}
    (h : (processRaw number line site cache).result = .error (.failure f)) : f.OfStream := by
  cases hdecode : Utf8.decode? (chompReturn line) with
  | some text =>
    rw [processRaw_of_text hdecode, bind_result_eq_error_iff] at h
    rcases h with h | ⟨filled, -, h⟩
    · exact .line (ofLine_of_processLine h)
    · simp [pure_apply] at h
  | none =>
    rw [processRaw_of_undecodable hdecode, copyRaw] at h
    split at h
    · exact Stop.failure.inj (Except.error.inj h) ▸ .invalidInput _
    · simp [pure_apply] at h

theorem ofStream_of_processLines {number : Nat} {lines : List Bytes}
    (h : (processLines number lines site cache).result = .error (.failure f)) : f.OfStream := by
  obtain ⟨before, line, after, filled, -, -, hline⟩ :=
    (processLines_error_iff number lines (.failure f)).mp h
  exact ofStream_of_processRaw hline

theorem ofStream_of_processAll {input : Input}
    (h : (processAll input site cache).result = .error (.failure f)) : f.OfStream := by
  rcases processAll_error_iff.mp h with h | ⟨filled, reason, -, -, hstop⟩
  · exact ofStream_of_processLines h
  · exact Stop.failure.inj hstop ▸ .io reason

theorem ofRun_of_execute {world : World} {path : Path} {input : Input} {sink : Sink}
    {f : RunFailure} (h : (execute world path input sink).result = .error (.failure f)) :
    f.OfRun path := by
  cases hload : Descriptor.load world.disk path with
  | error f' =>
    obtain ⟨reason, rfl⟩ := Descriptor.invalid_of_load hload
    simp only [execute, hload] at h
    exact Stop.failure.inj (Except.error.inj h) ▸ .descriptor reason
  | ok descriptor =>
    cases hstream : (processAll input { world, settingsPath := descriptor.kvFilePath } {}).result with
    | error stop =>
      rw [(execute_of_error hload hstream).1] at h
      cases stop with
      | failure f' =>
        exact Stop.failure.inj (Except.error.inj h) ▸ .stream (ofStream_of_processAll hstream)
      | breach b => simp only [Stop.map, Except.error.injEq, reduceCtorEq] at h
    | ok filled =>
      rw [(execute_of_ok sink hload hstream).1] at h
      cases hdeliver : (sink.deliver filled).2 with
      | ok _ => simp [hdeliver, Except.mapError] at h
      | error reason =>
        rw [hdeliver] at h
        exact Stop.failure.inj (Except.error.inj h) ▸ .output reason

end Kinds

section Lines

variable [Pattern.Limit]

/-- How a line fails, by the lookup that is reached when it does. -/
structure LineFailures (site : Site) (cache : Cache) (line : Text) : Prop where
  first : ∀ f, (processLine line site cache).result = .error (.failure f) ↔
    ∃ l state, Lookup.IsReached site cache line l state ∧
      (l.run site state).result = .error (.failure f)
  configurationMissing : ∀ name,
    (processLine line site cache).result = .error (.failure (.configurationMissing name)) ↔
      ∃ l state, Lookup.IsReached site cache line l state ∧ Lookup.LacksSession site state name l
  sourceUnreadable : ∀ path,
    (∃ reason, (processLine line site cache).result =
        .error (.failure (.sourceUnreadable path reason))) ↔
      path = site.settingsPath ∧
        ∃ l state, Lookup.IsReached site cache line l state ∧ Lookup.LacksSettings site state l
  transport :
    (∃ reason, (processLine line site cache).result = .error (.failure (.transport reason))) ↔
      ∃ l state, Lookup.IsReached site cache line l state ∧ Lookup.IsRefused site state l
  kind : ∀ f, (processLine line site cache).result = .error (.failure f) → f.OfLine
  brokenOff : ∀ b, (processLine line site cache).result = .error (.breach b) ↔
    BreaksOff site cache line b

theorem lineFailures (site : Site) (cache : Cache) (line : Text) :
    LineFailures site cache line where
  first _ := Lookup.processLine_eq_failure_iff
  configurationMissing name := by
    simp only [Lookup.processLine_eq_failure_iff, Lookup.run_eq_configurationMissing_iff]
  sourceUnreadable path := by
    simp only [Lookup.processLine_eq_failure_iff]
    constructor
    · rintro ⟨reason, l, state, hreached, hfails⟩
      obtain ⟨hpath, hlacks⟩ := Lookup.run_eq_sourceUnreadable_iff.mp ⟨reason, hfails⟩
      exact ⟨hpath, l, state, hreached, hlacks⟩
    · rintro ⟨hpath, l, state, hreached, hlacks⟩
      obtain ⟨reason, hfails⟩ := Lookup.run_eq_sourceUnreadable_iff.mpr ⟨hpath, hlacks⟩
      exact ⟨reason, l, state, hreached, hfails⟩
  transport := by
    simp only [Lookup.processLine_eq_failure_iff]
    constructor
    · rintro ⟨reason, l, state, hreached, hfails⟩
      exact ⟨l, state, hreached, Lookup.run_eq_transport_iff.mp ⟨reason, hfails⟩⟩
    · rintro ⟨l, state, hreached, hrefused⟩
      obtain ⟨reason, hfails⟩ := Lookup.run_eq_transport_iff.mpr hrefused
      exact ⟨reason, l, state, hreached, hfails⟩
  kind _ h := ofLine_of_processLine h
  brokenOff _ := processLine_eq_breach_iff

end Lines

/-- Every failure is of a kind that the step it ends can have, which never is that something is not
there, and it tells why the first lookup to fail has failed.  What has no value and no failure has been
broken off. -/
theorem failures_classified [Pattern.Limit] (site : Site) (cache : Cache) :
    (∀ line, LineFailures site cache line) ∧
    (∀ l : Lookup,
      (∀ name, (l.run site cache).result = .error (.failure (.configurationMissing name)) ↔
        Lookup.LacksSession site cache name l) ∧
      (∀ path,
        (∃ reason, (l.run site cache).result =
            .error (.failure (.sourceUnreadable path reason))) ↔
          path = site.settingsPath ∧ Lookup.LacksSettings site cache l) ∧
      ((∃ reason, (l.run site cache).result = .error (.failure (.transport reason))) ↔
        Lookup.IsRefused site cache l) ∧
      (∀ t, (l.run site cache).result = .ok t ↔ Lookup.Gives site cache l t) ∧
      ∀ stop, (l.run site cache).result = .error stop → ∃ f, stop = .failure f ∧ f.OfLine) ∧
    (∀ input f, (processAll input site cache).result = .error (.failure f) → f.OfStream) ∧
    (∀ input b, (processAll input site cache).result = .error (.breach b) ↔
      StreamBreaksOff site cache input.lines b) ∧
    (∀ path input sink f, (execute site.world path input sink).result = .error (.failure f) →
      f.OfRun path) ∧
    (∀ f : Failure, f.OfStream → f.isNotFound = false) := by
  refine ⟨lineFailures site cache, ?_, fun _ _ => ofStream_of_processAll,
    fun _ _ => processAll_eq_breach_iff, fun _ _ _ _ => ofRun_of_execute,
    fun f => Failure.OfStream.isNotFound⟩
  intro l
  refine ⟨fun _ => Lookup.run_eq_configurationMissing_iff,
    fun _ => Lookup.run_eq_sourceUnreadable_iff, Lookup.run_eq_transport_iff,
    fun _ => Lookup.run_eq_ok_iff, ?_⟩
  intro stop hstop
  cases stop with
  | failure f => exact ⟨f, rfl, Lookup.ofLine_of_run hstop⟩
  | breach b => exact absurd hstop (l.withinBounds_run site cache b)

end Infill
