import Infill.Proofs.Failure

/-!
# What a stream draws on

A stream that draws on settings only comes to the same wherever the secret store is and whatever it
answers, and one that draws on secrets only comes to the same whatever the key-value file is
(`stream_draws_on_what_it_names`).  A `Move` puts an action somewhere else, and it carries the action
if what comes of it there is what comes of it here, moved in the same way.
-/

namespace Infill

open Infill.Action

/-- To do something at another site, with something else loaded, where some events are not seen. -/
structure Move where
  site : Site → Site
  cache : Cache → Cache
  event : Event → Option Event := some

def Move.outcome {α : Type} (m : Move) (out : Outcome α) : Outcome α :=
  { result := out.result
    cache := m.cache out.cache
    events := out.events.filterMap m.event }

/-- What comes of the action after the move is what comes of it before, moved. -/
def Move.Carries {α : Type} (m : Move) (x : Action α) (site : Site) (cache : Cache) : Prop :=
  x (m.site site) (m.cache cache) = m.outcome (x site cache)

namespace Move.Carries

variable {α β : Type} {m : Move} {site : Site} {cache : Cache}

theorem pure (a : α) : m.Carries (pure a) site cache := rfl

theorem ofResult (r : Except Failure α) : m.Carries (Action.ofResult r) site cache := rfl

theorem ofStep (r : Except Breach α) : m.Carries (Action.ofStep r) site cache := rfl

theorem emit {e : Event} (h : m.event e = some e) : m.Carries (Action.emit e) site cache := by
  simp [Move.Carries, Move.outcome, Action.emit, h]

theorem ask {r : Request} (hanswer : (m.site site).world.answer = site.world.answer)
    (hevent : m.event (.request r) = some (.request r)) :
    m.Carries (Action.ask r) site cache := by
  simp [Move.Carries, Move.outcome, Action.ask, hanswer, hevent]

theorem bind {x : Action α} {f : α → Action β} (hx : m.Carries x site cache)
    (hf : ∀ a, (x site cache).result = .ok a → m.Carries (f a) site (x site cache).cache) :
    m.Carries (x >>= f) site cache := by
  have hresult : (x (m.site site) (m.cache cache)).result = (x site cache).result := by
    rw [hx]
    rfl
  unfold Move.Carries at hx hf ⊢
  cases h : (x site cache).result with
  | error e =>
    rw [bind_of_error h, bind_of_error (hresult.trans h), hx]
    rfl
  | ok a =>
    rw [bind_of_ok h, bind_of_ok (hresult.trans h), hx]
    simp only [Move.outcome, hf a h, List.filterMap_append]

theorem orIfMissing {x : Action Text} (hx : m.Carries x site cache) (fallback : Text) :
    m.Carries (x.orIfMissing fallback) site cache := by
  unfold Move.Carries at hx ⊢
  rw [orIfMissing_eq, orIfMissing_eq, hx, Outcome.orIfMissing, Outcome.orIfMissing]
  cases h : (x site cache).result with
  | ok t => simp only [Move.outcome, h]
  | error f =>
    simp only [Move.outcome, h]
    split
    · rfl
    · rw [← h]

/-- A sequence of steps is carried if each step is, also after others have loaded something. -/
theorem mapM {γ : Type} {f : γ → Action α} (hsteady : ∀ c, Steady (f c)) {l : List γ}
    {base : Cache}
    (h : ∀ c ∈ l, ∀ cache, cache.Extends site base → m.Carries (f c) site cache)
    (hcache : cache.Extends site base) : m.Carries (l.mapM f) site cache := by
  induction l generalizing cache with
  | nil => exact pure []
  | cons c l ih =>
    obtain ⟨hfirst, hrest⟩ := List.forall_mem_cons.mp h
    rw [List.mapM_cons]
    refine bind (hfirst cache hcache) fun a _ => bind (ih hrest ?_) fun _ _ => pure _
    exact (hsteady c site base cache hcache).2.2

end Move.Carries

/-- The lines of a stream that are texts. -/
def Input.texts (input : Input) : List Text :=
  input.lines.filterMap fun line => Utf8.decode? (chompReturn line)

theorem Input.mem_texts {input : Input} {line : Bytes} {text : Text} (hline : line ∈ input.lines)
    (htext : Utf8.decode? (chompReturn line) = some text) : text ∈ input.texts :=
  List.mem_filterMap.mpr ⟨line, hline, htext⟩

section Streams

variable [Pattern.Limit] {m : Move} {site : Site} {base cache : Cache}

/-- A line is carried if its text is; what is not text is copied without looking anywhere. -/
theorem Move.carries_processRaw {line : Bytes} (number : Nat)
    (h : ∀ text, Utf8.decode? (chompReturn line) = some text →
      m.Carries (processLine text) site cache) : m.Carries (processRaw number line) site cache := by
  cases hdecode : Utf8.decode? (chompReturn line) with
  | some text =>
    rw [processRaw_of_text hdecode]
    exact .bind (h text hdecode) fun _ _ => .pure _
  | none =>
    rw [processRaw_of_undecodable hdecode, copyRaw]
    split
    · exact .ofResult _
    · exact .pure _

theorem Move.carries_processLines {lines : List Bytes} (number : Nat)
    (h : ∀ line ∈ lines, ∀ text, Utf8.decode? (chompReturn line) = some text →
      ∀ cache, cache.Extends site base → m.Carries (processLine text) site cache)
    (hcache : cache.Extends site base) : m.Carries (processLines number lines) site cache := by
  induction lines generalizing number cache with
  | nil => exact .pure _
  | cons line lines ih =>
    obtain ⟨hline, hlines⟩ := List.forall_mem_cons.mp h
    have hnext := ((composed_processRaw number line).steady site base cache hcache).2.2
    rw [processLines_cons]
    refine .bind (carries_processRaw number fun text htext => hline text htext cache hcache) ?_
    exact fun _ _ => .bind (ih (number + 1) hlines hnext) fun _ _ => .pure _

/-- A stream is carried if each of its texts is, also after others have loaded something. -/
theorem Move.carries_processAll {input : Input}
    (h : ∀ text ∈ input.texts, ∀ cache, cache.Extends site base →
      m.Carries (processLine text) site cache) : m.Carries (processAll input) site base := by
  refine .bind (carries_processLines 1 ?_ (.refl site base)) fun filled _ => ?_
  · exact fun line hline text htext => h text (Input.mem_texts hline htext)
  · cases input.fault with
    | some reason => exact .ofResult _
    | none => exact .pure _

end Streams

section Settings

/-- No part of a line comes from the secret store: there is no secret in the line, and none in the
settings that it names. -/
structure HoldsNoSecret (site : Site) (cache : Cache) (text : Text) : Prop where
  line : Dialect.secret.occursIn text = false
  settings : ∀ key ∈ keysIn text, ∀ value, (settingsAtHand site cache).get? key = some value →
    Dialect.secret.occursIn value = false

/-- To have another environment, another secret store and another session.  No event is carried
over. -/
def Move.store (environment : Environment) (answer : Request → Except Text Response)
    (session : Option Session) : Move where
  site site := { site with world := { site.world with environment, answer } }
  cache cache := { cache with session }
  event _ := none

variable {environment : Environment} {answer : Request → Except Text Response}
  {session : Option Session} {site : Site} {base cache : Cache}

theorem settingsAtHand_of_extends (h : cache.Extends site base) :
    settingsAtHand site cache = settingsAtHand site base := by
  obtain ⟨hresult, -, -⟩ := Steady.settings site base cache h
  rw [settingsAtHand, settingsAtHand, hresult]

theorem Move.carries_settings :
    (Move.store environment answer session).Carries Action.settings site cache := by
  obtain ⟨held, settings⟩ := cache
  cases settings with
  | some s => rfl
  | none =>
    simp only [Move.Carries, Move.store, Action.settings]
    cases Settings.load site.world.disk site.settingsPath <;> rfl

variable [Pattern.Limit]

/-- A setting without a secret in it is looked up and left as it is. -/
theorem Move.carries_resolveKey {key : Text}
    (h : ∀ value, (settingsAtHand site cache).get? key = some value →
      Dialect.secret.occursIn value = false) :
    (Move.store environment answer session).Carries (resolveReference key >>= fillSecrets) site
      cache := by
  refine .bind (.bind carries_settings fun s _ => .pure _) fun value hvalue => ?_
  have hsecret : Dialect.secret.occursIn value = false := by
    rw [resolveReference, bind_result_eq_ok_iff] at hvalue
    obtain ⟨s, hs, hvalue⟩ := hvalue
    obtain rfl : (s.get? key).getD [] = value := Except.ok.inj hvalue
    have hhand : settingsAtHand site cache = s := by simp only [settingsAtHand, hs]
    cases hget : s.get? key with
    | none => rfl
    | some value => exact h value (by rw [hhand, hget])
  rw [fillSecrets, fillLine_of_not_occursIn _ hsecret]
  exact .pure _

theorem Move.carries_of_holdsNoSecret {line : Text}
    (h : isComment line = false → HoldsNoSecret site base line) (hcache : cache.Extends site base) :
    (Move.store environment answer session).Carries (processLine line) site cache := by
  cases hdialect : dialect? line with
  | none =>
    rw [processLine_of_no_dialect hdialect]
    exact .pure _
  | some d =>
    cases d with
    | secret =>
      obtain ⟨hcomment, hsecret⟩ := dialect?_eq_secret_iff.mp hdialect
      rw [(h hcomment).line] at hsecret
      contradiction
    | reference =>
      obtain ⟨hcomment, -, -⟩ := dialect?_eq_reference_iff.mp hdialect
      rw [processLine_of_reference hdialect, fillReferences_eq]
      refine .bind (.mapM (fun key => ?_) (fun key hkey state hstate => ?_) hcache) ?_
      · exact (Composed.bind (composed_resolveReference key) composed_fillSecrets).steady
      · refine carries_resolveKey ?_
        rw [settingsAtHand_of_extends hstate]
        exact (h hcomment).settings key hkey
      · exact fun _ _ => .ofStep _

end Settings

section Secrets

/-- To have another disk, another place for the key-value file and other settings. -/
def Move.files (disk : Disk) (settingsPath : Path) (settings : Option Settings) : Move where
  site site := { settingsPath, world := { site.world with disk } }
  cache cache := { cache with settings }

variable {disk : Disk} {settingsPath : Path} {settings : Option Settings} {site : Site}
  {cache : Cache}

theorem Move.carries_session :
    (Move.files disk settingsPath settings).Carries Action.session site cache := by
  obtain ⟨session, held⟩ := cache
  cases session with
  | some s => rfl
  | none =>
    simp only [Move.Carries, Move.files, Action.session]
    cases Session.ofEnvironment site.world.environment <;> rfl

theorem Move.carries_resolveSecret (path key : Text) :
    (Move.files disk settingsPath settings).Carries (resolveSecret path key) site cache := by
  refine .bind carries_session fun s _ => .orIfMissing ?_ []
  exact .bind (.ofResult _) fun r _ => .bind (.ask rfl rfl) fun _ _ => .ofResult _

variable [Pattern.Limit]

theorem Move.carries_fillSecrets (text : Text) :
    (Move.files disk settingsPath settings).Carries (fillSecrets text) site cache := by
  have hsteady : ∀ field : Text × Text, Steady (resolveSecret field.1 field.2) :=
    fun field => (composed_resolveSecret field.1 field.2).steady
  have hfields : (Move.files disk settingsPath settings).Carries (resolveFields (fieldsIn text))
      site cache :=
    .mapM hsteady (fun field _ state _ => carries_resolveSecret field.1 field.2) (.refl site cache)
  rw [fillSecrets_eq]
  exact hfields.bind fun _ _ => .ofStep _

theorem Move.carries_of_secret_beside_reference {line : Text}
    (h : isComment line = false → Dialect.reference.occursIn line = true →
      Dialect.secret.occursIn line = true) :
    (Move.files disk settingsPath settings).Carries (processLine line) site cache := by
  cases hdialect : dialect? line with
  | none =>
    rw [processLine_of_no_dialect hdialect]
    exact .pure _
  | some d =>
    cases d with
    | secret =>
      rw [processLine_of_secret hdialect]
      split
      · exact .bind (.emit rfl) fun _ _ => carries_fillSecrets line
      · exact carries_fillSecrets line
    | reference =>
      obtain ⟨hcomment, hsecret, hreference⟩ := dialect?_eq_reference_iff.mp hdialect
      rw [h hcomment hreference] at hsecret
      contradiction

end Secrets

/-- A stream asks for nothing and needs no session if no secret stands in it or in a setting that it
names, and it needs no settings if every line with a reference holds a secret too.  What is not
needed makes no difference to what comes of the stream. -/
theorem stream_draws_on_what_it_names [Pattern.Limit] (site : Site) (cache : Cache) (input : Input) :
    ((∀ text ∈ input.texts, isComment text = false → HoldsNoSecret site cache text) →
      (processAll input site cache).events = [] ∧
      (processAll input site cache).cache.session = cache.session ∧
      ∀ environment answer session,
        processAll input { site with world := { site.world with environment, answer } }
            { cache with session } =
          { processAll input site cache with
            cache := { (processAll input site cache).cache with session } }) ∧
    ((∀ text ∈ input.texts, isComment text = false → Dialect.reference.occursIn text = true →
        Dialect.secret.occursIn text = true) →
      (processAll input site cache).cache.settings = cache.settings ∧
      ∀ disk settingsPath settings,
        processAll input { settingsPath, world := { site.world with disk } }
            { cache with settings } =
          { processAll input site cache with
            cache := { (processAll input site cache).cache with settings } }) := by
  refine ⟨?store, ?files⟩
  case store =>
    intro h
    have hmove : ∀ environment answer session,
        (Move.store environment answer session).Carries (processAll input) site cache :=
      fun _ _ _ => Move.carries_processAll fun text htext _ =>
        Move.carries_of_holdsNoSecret (h text htext)
    -- To stay at the same site is such a move too, and no event is left after it.
    have hstay := hmove site.world.environment site.world.answer cache.session
    have hevents : (processAll input site cache).events = [] := by
      rw [show processAll input site cache = _ from hstay]
      simp [Move.outcome, Move.store]
    refine ⟨hevents, by rw [show processAll input site cache = _ from hstay]; rfl, ?_⟩
    intro environment answer session
    refine (hmove environment answer session).trans ?_
    simp [Move.outcome, Move.store, hevents]
  case files =>
    intro h
    have hmove : ∀ disk settingsPath settings,
        (Move.files disk settingsPath settings).Carries (processAll input) site cache :=
      fun _ _ _ => Move.carries_processAll fun text htext _ _ =>
        Move.carries_of_secret_beside_reference (h text htext)
    have hstay := hmove site.world.disk site.settingsPath cache.settings
    refine ⟨by rw [show processAll input site cache = _ from hstay]; rfl, ?_⟩
    intro disk settingsPath settings
    refine (hmove disk settingsPath settings).trans ?_
    simp [Move.outcome, Move.files]

end Infill
