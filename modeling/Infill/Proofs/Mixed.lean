import Infill.Proofs.Source
import Infill.Proofs.Splicing
import Infill.Proofs.Token

/-!
# Lines with placeholders of both dialects

A line that holds secrets and references is mixed.  Its references are left as they are, and it is
warned of once; nothing else is ever warned of (`warnings_processLine`).  A text that stands apart from
the placeholders of a line is found again in the line that is filled, moved by what the placeholders in
front of it have grown or shrunk (`exists_kept`).
-/

namespace Infill

open Infill.Action

/-- Whether there are placeholders of both dialects in a line that is no comment. -/
def isMixed (line : Text) : Bool :=
  !isComment line && Dialect.secret.occursIn line && Dialect.reference.occursIn line

/-- The text of a line of a stream, if it is mixed. -/
def mixedText? (line : Bytes) : Option Text := (Utf8.decode? (chompReturn line)).filter isMixed

/-- The lines that have been warned of, in order. -/
def Outcome.warnings {α : Type} (out : Outcome α) : List Text := out.events.filterMap Event.warning?

/-- The lines that are attempted when lines are filled: all of them, or those up to the first one that
fails or breaks off. -/
inductive Attempted [Pattern.Limit] (site : Site) (cache : Cache) (lines : List Bytes) : List Bytes → Prop
  | all {filled : Bytes} (fills : (processLines 1 lines site cache).result = .ok filled) :
      Attempted site cache lines lines
  | upTo {before after : List Bytes} {line filled : Bytes} {stop : Stop Failure}
      (cut : lines = before ++ line :: after)
      (fills : (processLines 1 before site cache).result = .ok filled)
      (stops : (processRaw (1 + before.length) line site
        (processLines 1 before site cache).cache).result = .error stop) :
      Attempted site cache lines (before ++ [line])

/-- The bytes that the placeholders take which end before a byte of their line. -/
def takenBefore (place : Nat) (found : List Occurrence) : Nat :=
  Utf8.size ((found.filter fun o => o.stop ≤ place).flatMap fun o => o.placeholder.text)

/-- The bytes that those texts take which are put in the places of these placeholders. -/
def putBefore [Pattern.Limit] (place : Nat) (found : List Occurrence) (values : List Text) : Nat :=
  Utf8.size (((found.zip values).filter fun put => put.1.stop ≤ place).flatMap
    fun put => put.1.placeholder.put put.2)

/-- Nothing is warned of. -/
def Quiet {α : Type} (x : Action α) : Prop := ∀ site cache, (x site cache).warnings = []

section Actions

variable {α β γ : Type} {site : Site} {cache : Cache}

theorem warnings_bind_of_ok {x : Action α} {f : α → Action β} {a : α}
    (h : (x site cache).result = .ok a) :
    ((x >>= f) site cache).warnings =
      (x site cache).warnings ++ (f a site (x site cache).cache).warnings := by
  rw [bind_of_ok h]
  exact List.filterMap_append

theorem warnings_bind_of_error {x : Action α} {f : α → Action β} {e : Stop Failure}
    (h : (x site cache).result = .error e) :
    ((x >>= f) site cache).warnings = (x site cache).warnings := by
  rw [bind_of_error h]
  rfl

namespace Quiet

theorem pure (a : α) : Quiet (pure a) := fun _ _ => rfl

theorem ofResult (r : Except Failure α) : Quiet (Action.ofResult r) := fun _ _ => rfl

theorem ofStep (r : Except Breach α) : Quiet (Action.ofStep r) := fun _ _ => rfl

theorem ask (r : Request) : Quiet (Action.ask r) := fun _ _ => rfl

theorem bind {x : Action α} {f : α → Action β} (hx : Quiet x) (hf : ∀ a, Quiet (f a)) :
    Quiet (x >>= f) := by
  intro site cache
  cases h : (x site cache).result with
  | error e => rw [warnings_bind_of_error h, hx]
  | ok a => rw [warnings_bind_of_ok h, hx, hf, List.append_nil]

theorem orIfMissing {x : Action Text} (hx : Quiet x) (fallback : Text) :
    Quiet (x.orIfMissing fallback) := by
  intro site cache
  rw [← hx site cache]
  cases h : (x site cache).result with
  | ok t => rw [orIfMissing_of_ok h]
  | error f =>
    rw [orIfMissing_of_error h]
    split
    · rfl
    · rfl

theorem mapM {f : γ → Action α} (hf : ∀ c, Quiet (f c)) (l : List γ) : Quiet (l.mapM f) := by
  induction l with
  | nil => exact pure []
  | cons c l ih =>
    rw [List.mapM_cons]
    exact bind (hf c) fun _ => bind ih fun _ => pure _

theorem session : Quiet Action.session := by
  intro site cache
  rw [Action.session]
  split
  · rfl
  · split
    · rfl
    · rfl

theorem settings : Quiet Action.settings := by
  intro site cache
  rw [Action.settings]
  split
  · rfl
  · split
    · rfl
    · rfl

end Quiet

theorem quiet_resolveSecret (path key : Text) : Quiet (resolveSecret path key) := by
  refine .bind .session fun s => .orIfMissing ?_ []
  exact .bind (.ofResult _) fun r => .bind (.ask r) fun _ => .ofResult _

variable [Pattern.Limit]

theorem quiet_fillSecrets (text : Text) : Quiet (fillSecrets text) := by
  rw [fillSecrets_eq]
  exact .bind (.mapM (fun _ => quiet_resolveSecret _ _) _) fun _ => .ofStep _

/-- A setting is not warned of, whatever it holds. -/
theorem quiet_resolveDeep_setting (key : Text) : Quiet (resolveDeep (.setting key)) := by
  rw [resolveDeep_setting]
  exact .bind (.bind .settings fun _ => .pure _) quiet_fillSecrets

theorem quiet_fillReferences (line : Text) : Quiet (fillReferences line) := by
  rw [fillReferences_eq]
  refine .bind (.mapM (fun key => ?_) _) fun _ => .ofStep _
  rw [← resolveDeep_setting]
  exact quiet_resolveDeep_setting key

end Actions

section Lines

variable {site : Site} {cache : Cache} {line : Text}

theorem isMixed_iff : isMixed line = true ↔
    dialect? line = some .secret ∧ Dialect.reference.occursIn line = true := by
  rw [dialect?_eq_secret_iff, isMixed, Bool.and_eq_true, Bool.and_eq_true, Bool.not_eq_true']

variable [Pattern.Limit]

theorem processLine_of_mixed (h : isMixed line = true) :
    processLine line = Action.emit (.warning line) >>= fun _ => fillSecrets line := by
  obtain ⟨hdialect, hreference⟩ := isMixed_iff.mp h
  rw [processLine_of_secret hdialect, if_pos hreference]

/-- A mixed line is warned of once, and nothing else is. -/
theorem warnings_processLine (line : Text) :
    (processLine line site cache).warnings = if isMixed line then [line] else [] := by
  by_cases hmixed : isMixed line
  · rw [if_pos hmixed, processLine_of_mixed hmixed, warnings_bind_of_ok rfl, quiet_fillSecrets]
    rfl
  · rw [if_neg hmixed]
    rw [isMixed_iff, not_and] at hmixed
    cases hdialect : dialect? line with
    | none =>
      rw [processLine_of_no_dialect hdialect]
      rfl
    | some d =>
      cases d with
      | secret =>
        rw [processLine_of_secret hdialect, if_neg (hmixed hdialect)]
        exact quiet_fillSecrets line site cache
      | reference =>
        rw [processLine_of_reference hdialect]
        exact quiet_fillReferences line site cache

end Lines

section Streams

variable [Pattern.Limit] {site : Site} {cache : Cache}

theorem warnings_processRaw (n : Nat) (line : Bytes) :
    (processRaw n line site cache).warnings = (mixedText? line).toList := by
  rw [mixedText?]
  cases hdecode : Utf8.decode? (chompReturn line) with
  | some text =>
    rw [processRaw_of_text hdecode, Outcome.warnings, events_bind_pure]
    refine (warnings_processLine text).trans ?_
    by_cases hmixed : isMixed text <;> simp [hmixed, Option.filter]
  | none =>
    rw [processRaw_of_undecodable hdecode, copyRaw]
    split
    · rfl
    · rfl

theorem warnings_processLines_of_ok {n : Nat} {lines : List Bytes} {filled : Bytes}
    (h : (processLines n lines site cache).result = .ok filled) :
    (processLines n lines site cache).warnings = lines.filterMap mixedText? := by
  induction lines generalizing n cache filled with
  | nil => rfl
  | cons line lines ih =>
    rw [processLines_cons] at h ⊢
    obtain ⟨out, hout, h⟩ := bind_result_eq_ok_iff.mp h
    obtain ⟨more, hmore, -⟩ := bind_result_eq_ok_iff.mp h
    rw [warnings_bind_of_ok hout, warnings_processRaw, warnings_bind_of_ok hmore, ih hmore,
      List.filterMap_cons]
    cases mixedText? line with
    | none => exact List.append_nil _
    | some text => exact congrArg (text :: ·) (List.append_nil _)

/-- Behind the line that comes to nothing there are no warnings. -/
theorem warnings_processLines_of_error {before after : List Bytes} {line filled : Bytes}
    {stop : Stop Failure} (hfills : (processLines 1 before site cache).result = .ok filled)
    (hstops : (processRaw (1 + before.length) line site
      (processLines 1 before site cache).cache).result = .error stop) :
    (processLines 1 (before ++ line :: after) site cache).warnings =
      (before ++ [line]).filterMap mixedText? := by
  rw [processLines_append, warnings_bind_of_ok hfills, warnings_processLines_of_ok hfills,
    processLines_cons, warnings_bind_of_error (by rw [bind_of_error hstops]),
    warnings_bind_of_error hstops, warnings_processRaw, List.filterMap_append]
  cases htext : mixedText? line <;> simp [htext]

theorem exists_attempted (site : Site) (cache : Cache) (lines : List Bytes) :
    ∃ attempted, Attempted site cache lines attempted := by
  cases h : (processLines 1 lines site cache).result with
  | ok filled => exact ⟨lines, .all h⟩
  | error f =>
    obtain ⟨before, line, after, filled, hcut, hfills, hstops⟩ := (processLines_error_iff 1 _ _).mp h
    exact ⟨_, .upTo hcut hfills hstops⟩

/-- A fault of the reader is not warned of. -/
theorem warnings_processAll (input : Input) : (processAll input site cache).warnings =
    (processLines 1 input.lines site cache).warnings := by
  rw [processAll]
  cases h : (processLines 1 input.lines site cache).result with
  | error f => rw [warnings_bind_of_error h]
  | ok filled =>
    rw [warnings_bind_of_ok h]
    cases input.fault with
    | some reason => exact List.append_nil _
    | none => exact List.append_nil _

theorem Attempted.warnings_eq {input : Input} {attempted : List Bytes}
    (h : Attempted site cache input.lines attempted) :
    (processAll input site cache).warnings = attempted.filterMap mixedText? := by
  rw [warnings_processAll]
  cases h with
  | all fills => exact warnings_processLines_of_ok fills
  | upTo cut fills stops => rw [cut, warnings_processLines_of_error fills stops]

end Streams

section Places

variable {place : Nat} {o : Occurrence} {found : List Occurrence} {value : Text} {values : List Text}

theorem takenBefore_cons_of_le (h : o.stop ≤ place) : takenBefore place (o :: found) =
    Utf8.size o.placeholder.text + takenBefore place found := by
  simp [takenBefore, h, Utf8.size_append]

theorem putBefore_cons_of_le [Pattern.Limit] (h : o.stop ≤ place) :
    putBefore place (o :: found) (value :: values) =
      Utf8.size (o.placeholder.put value) + putBefore place found values := by
  simp [putBefore, h, Utf8.size_append]

theorem takenBefore_eq_zero (h : ∀ o ∈ found, place < o.stop) : takenBefore place found = 0 := by
  have hnone : found.filter (fun o => o.stop ≤ place) = [] := by simpa using h
  rw [takenBefore, hnone]
  rfl

theorem putBefore_eq_zero [Pattern.Limit] (h : ∀ o ∈ found, place < o.stop) (values : List Text) :
    putBefore place found values = 0 := by
  have hnone : (found.zip values).filter (fun put => put.1.stop ≤ place) = [] := by
    rw [List.filter_eq_nil_iff]
    intro put hput
    simpa using h put.1 (List.of_mem_zip hput).1
  rw [putBefore, hnone]
  rfl

theorem le_stop_of_mem_occurrencesFrom {start : Nat} {holes : List (Text × Placeholder)}
    {o : Occurrence} (h : o ∈ Template.occurrencesFrom start holes) : start ≤ o.stop := by
  induction holes generalizing start with
  | nil => exact absurd h List.not_mem_nil
  | cons hole holes ih =>
    rcases List.mem_cons.mp h with rfl | h
    · exact Nat.le_trans (Nat.le_add_right _ _) (Nat.le_add_right _ _)
    · exact Nat.le_trans (Nat.le_trans (Nat.le_add_right _ _) (Nat.le_add_right _ _)) (ih h)

/-- A text that stands apart from the placeholders of a line is kept.  It moves by what has been put in
the places of the placeholders in front of it. -/
theorem exists_kept [Pattern.Limit] {holes : List (Text × Placeholder)} {values : List Text}
    {tail a x b : Text}
    (hlength : values.length = holes.length) (hx : x ≠ []) (start : Nat)
    (htext : Template.text { holes, tail } = a ++ x ++ b)
    (hapart : ∀ o ∈ Template.occurrencesFrom start holes,
      o.stop ≤ start + Utf8.size a ∨ start + Utf8.size a + Utf8.size x ≤ o.start) :
    ∃ front back, Template.splice { holes, tail } values = front ++ x ++ back ∧
      Utf8.size front +
          takenBefore (start + Utf8.size a) (Template.occurrencesFrom start holes) =
        Utf8.size a +
          putBefore (start + Utf8.size a) (Template.occurrencesFrom start holes) values := by
  induction holes generalizing start a values with
  | nil => exact ⟨a, b, htext, rfl⟩
  | cons hole holes ih =>
    obtain ⟨before, p⟩ := hole
    obtain ⟨value, values, rfl⟩ := List.exists_cons_of_length_eq_add_one hlength
    obtain ⟨hfirst, hmore⟩ := List.forall_mem_cons.mp hapart
    have hline : before ++ p.text ++ Template.text { holes, tail } = a ++ (x ++ b) := by
      rw [← List.append_assoc, ← htext]
      simp [Template.text]
    have hsplice : Template.splice { holes := (before, p) :: holes, tail } (value :: values) =
        before ++ p.put value ++ Template.splice { holes, tail } values := rfl
    simp only at hfirst
    rcases hfirst with hbehind | hbefore
    · -- The text stands behind the first placeholder.
      obtain ⟨u, rfl, hrest⟩ := split_of_size_le hline (by simp only [Utf8.size_append]; omega)
      have hplace : start + Utf8.size (before ++ p.text ++ u) =
          start + Utf8.size before + Utf8.size p.text + Utf8.size u := by
        simp only [Utf8.size_append]
        omega
      rw [hplace] at hbehind hmore ⊢
      obtain ⟨front, back, hfill, hsize⟩ := ih (by simpa using hlength)
        (start + Utf8.size before + Utf8.size p.text) (by rw [hrest, List.append_assoc]) hmore
      refine ⟨before ++ p.put value ++ front, back, by rw [hsplice, hfill]; simp, ?_⟩
      rw [Template.occurrencesFrom, takenBefore_cons_of_le, putBefore_cons_of_le]
      · simp only [Utf8.size_append]
        omega
      · exact hbehind
      · exact hbehind
    · -- The text stands in the literal text in front of the first placeholder.
      have hpos := Utf8.size_pos hx
      have hleft : a ++ x ++ b = before ++ (p.text ++ Template.text { holes, tail }) := by
        rw [← List.append_assoc before, hline, List.append_assoc]
      obtain ⟨v, rfl, -⟩ := split_of_size_le hleft (by simp only [Utf8.size_append]; omega)
      have hlater : ∀ o ∈ Template.occurrencesFrom start ((a ++ x ++ v, p) :: holes),
          start + Utf8.size a < o.stop := by
        intro o ho
        simp only [Template.occurrencesFrom, Utf8.size_append, List.mem_cons] at ho
        rcases ho with rfl | ho
        · exact Nat.lt_of_lt_of_le (by omega) (Nat.le_add_right _ _)
        · exact Nat.lt_of_lt_of_le (by omega) (le_stop_of_mem_occurrencesFrom ho)
      refine ⟨a, v ++ p.put value ++ Template.splice { holes, tail } values,
        by rw [hsplice]; simp, ?_⟩
      rw [takenBefore_eq_zero hlater, putBefore_eq_zero hlater]

end Places

section Settings

variable [Pattern.Limit] {site : Site} {cache : Cache} {line : Text}

/-- A mixed line does without the settings: what comes of it is the same whatever has been loaded and
wherever the key-value file is. -/
theorem processLine_without_settings (h : isMixed line = true) :
    (processLine line site cache).cache.settings = cache.settings ∧
      ∀ disk settingsPath settings,
        processLine line { settingsPath, world := { site.world with disk } }
            { cache with settings } =
          { processLine line site cache with
            cache := { (processLine line site cache).cache with settings } } := by
  have hmove : ∀ disk settingsPath settings,
      (Move.files disk settingsPath settings).Carries (processLine line) site cache :=
    fun _ _ _ => Move.carries_of_secret_beside_reference fun _ _ =>
      (dialect?_eq_secret_iff.mp (isMixed_iff.mp h).1).2
  have hstay := hmove site.world.disk site.settingsPath cache.settings
  refine ⟨by rw [show processLine line site cache = _ from hstay]; rfl, ?_⟩
  intro disk settingsPath settings
  refine (hmove disk settingsPath settings).trans ?_
  simp [Move.outcome, Move.files]

end Settings

/-- A line with placeholders of both dialects does without the settings and is warned of once, and its
references are found again in the line that is filled, moved by what the secrets in front of them have
grown or shrunk.  Of no other line and of no setting is there a warning, and a stream is warned of line
by line up to the one that fails or breaks off. -/
theorem mixed_lines [Pattern.Limit] (site : Site) (cache : Cache) :
    (∀ line, isMixed line = true →
      ((processLine line site cache).cache.settings = cache.settings ∧
        ∀ disk settingsPath settings,
          processLine line { settingsPath, world := { site.world with disk } }
              { cache with settings } =
            { processLine line site cache with
              cache := { (processLine line site cache).cache with settings } }) ∧
      (processLine line site cache).warnings = [line] ∧
      ∀ out, (processLine line site cache).result = .ok out →
        (Template.ofLine .secret line).lineModifiers = [] →
        ∃ values, List.Forall₂ (Value site cache) (Dialect.secret.targets line) values ∧
          ∀ r ∈ Dialect.reference.find line,
            (∀ o ∈ Dialect.secret.find line, o.stop ≤ r.start ∨ r.stop ≤ o.start) →
            ∃ front back, out = front ++ r.placeholder.text ++ back ∧
              Utf8.size front + takenBefore r.start (Dialect.secret.find line) =
                r.start + putBefore r.start (Dialect.secret.find line) values) ∧
    (∀ line, isMixed line = false → (processLine line site cache).warnings = []) ∧
    (∀ key, (resolveDeep (.setting key) site cache).warnings = []) ∧
    ∀ input, (∃ attempted, Attempted site cache input.lines attempted) ∧
      ∀ attempted, Attempted site cache input.lines attempted →
        (processAll input site cache).warnings = attempted.filterMap mixedText? := by
  refine ⟨fun line hmixed => ⟨processLine_without_settings hmixed, ?once, ?kept⟩, ?others, ?settings,
    ?streams⟩
  case once => rw [warnings_processLine, if_pos hmixed]
  case kept =>
    intro out hout hmodifiers
    obtain ⟨values, hvalues, hrender⟩ := (processLine_eq_ok_iff (isMixed_iff.mp hmixed).1).mp hout
    rw [Template.render_eq _ (length_of_values hvalues), hmodifiers] at hrender
    obtain rfl := Except.ok.inj hrender
    refine ⟨values, hvalues, fun r hr hapart => ?_⟩
    have hstands := ((referenceScan_find .reference line).stands r hr).2
    obtain ⟨before, after, hline, hstart, hstop⟩ := hstands.place
    have hapart' : ∀ o ∈ Template.occurrencesFrom 0 (Template.ofLine .secret line).holes,
        o.stop ≤ 0 + Utf8.size before ∨
          0 + Utf8.size before + Utf8.size r.placeholder.text ≤ o.start := by
      rw [Nat.zero_add, ← hstop, ← hstart]
      exact hapart
    have hkept := exists_kept (length_of_values hvalues) hstands.written.ne_nil 0
      ((Template.text_ofLine .secret line).trans hline) hapart'
    rw [Nat.zero_add, ← hstart] at hkept
    exact hkept
  case others =>
    intro line hmixed
    rw [warnings_processLine, hmixed]
    rfl
  case settings => exact fun key => quiet_resolveDeep_setting key site cache
  case streams =>
    exact fun input => ⟨exists_attempted site cache input.lines, fun attempted h => h.warnings_eq⟩

/-- A place where the field `k` of every secret is `v`. -/
def openSite : Site :=
  { world :=
      { disk := { wording := fun _ _ _ => [] }, environment := [],
        answer := fun _ => .ok
          { status := 200, body := "\x7b\"data\":\x7b\"data\":\x7b\"k\":\"v\"\x7d\x7d\x7d".toList } },
    settingsPath := { text := [] } }

open scoped Pattern.Estimate in
/-- Of two references beside a secret the second one moves. -/
theorem mixed_lines_two_references :
    ∃ cache : Cache,
      (processLine "$\x7bref:A\x7d $\x7bsecret:p@k\x7d $\x7bref:B\x7d".toList openSite
          cache).warnings = ["$\x7bref:A\x7d $\x7bsecret:p@k\x7d $\x7bref:B\x7d".toList] ∧
        (processLine "$\x7bref:A\x7d $\x7bsecret:p@k\x7d $\x7bref:B\x7d".toList openSite
          cache).result = .ok "$\x7bref:A\x7d v $\x7bref:B\x7d".toList ∧
        ∃ front back, "$\x7bref:A\x7d v $\x7bref:B\x7d".toList =
            front ++ "$\x7bref:B\x7d".toList ++ back ∧ Utf8.size front + 13 = 23 + 1 := by
  let line : Text := "$\x7bref:A\x7d $\x7bsecret:p@k\x7d $\x7bref:B\x7d".toList
  let cache : Cache := { session := some { host := "http://[::1]".toList, token := ['t'] } }
  have hmixed : isMixed line = true := by decide +kernel
  have hresult : (processLine line openSite cache).result =
      .ok "$\x7bref:A\x7d v $\x7bref:B\x7d".toList := by decide +kernel
  obtain ⟨-, hwarnings, hkept⟩ := (mixed_lines openSite cache).1 line hmixed
  refine ⟨cache, hwarnings, hresult, ?_⟩
  obtain ⟨values, hvalues, hreferences⟩ := hkept _ hresult (by decide +kernel)
  have htargets : Dialect.secret.targets line = [.secret ['p'] ['k']] := by decide +kernel
  have hvalue : (resolveDeep (.secret ['p'] ['k']) openSite cache).result = .ok ['v'] := by
    decide +kernel
  obtain rfl : values = [['v']] := by
    rw [htargets, List.forall₂_cons_left_iff] at hvalues
    obtain ⟨value, rest, hv, hrest, rfl⟩ := hvalues
    rw [List.forall₂_nil_left_iff] at hrest
    rw [value_iff, hvalue, Except.ok.injEq] at hv
    rw [hv, hrest]
  exact hreferences
    { placeholder := { target := .setting ['B'], modifiers := [], text := "$\x7bref:B\x7d".toList }
      start := 23, stop := 31 } (by decide +kernel) (by decide +kernel)

end Infill
