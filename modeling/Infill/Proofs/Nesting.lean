import Infill.Pattern.Estimate
import Infill.Proofs.Reference
import Infill.Proofs.Settings.Meaning
import Infill.Proofs.Trace

/-!
# References to settings that hold placeholders

A line that is nothing but a reference comes to what the value of its setting comes to, under the
modifiers of the reference, unless these break off.  The secrets that the value holds are looked up,
one request for each, and nothing else of it or of what has been found is looked up again
(`referenceLine_agrees`).
-/

namespace Infill

open Infill.Action

/-- The line that is nothing but a reference to a setting, with modifiers if there are any. -/
def referenceLine (key : Text) : Option Text → Text
  | none => ['$', '{', ' '] ++ Dialect.reference.keyword ++ key ++ [' ', '}']
  | some modifiers =>
    ['$', '{', ' '] ++ Dialect.reference.keyword ++ key ++ [' ', '|', ' '] ++ modifiers ++ [' ', '}']

/-- The modifiers in the line with a space on either side. -/
def spaced (modifiers : Option Text) : Option Text := modifiers.map fun m => ' ' :: m ++ [' ']

section Filled

theorem map_trim_pieces_padded {before after : Text} (hbefore : ∀ c ∈ before, Text.isBlank c)
    (hafter : ∀ c ∈ after, Text.isBlank c) (t : Text) :
    (pieces '|' (before ++ t ++ after)).map Text.trim = (pieces '|' t).map Text.trim := by
  have hbar : Text.isBlank '|' = false := by decide
  have hbarBefore := Spelling.not_mem_of_blank hbefore hbar
  have hbarAfter := Spelling.not_mem_of_blank hafter hbar
  obtain ⟨parts, last, rfl, hparts, hlast⟩ := exists_join '|' t
  cases parts with
  | nil =>
    have hall : '|' ∉ before ++ ([].flatMap (· ++ ['|']) ++ last) ++ after := by
      simp [hbarBefore, hlast, hbarAfter]
    rw [pieces_of_not_mem hall, List.flatMap_nil, List.nil_append, pieces_of_not_mem hlast,
      List.map_singleton, List.map_singleton, Text.trim_padded hbefore hafter]
  | cons part parts =>
    obtain ⟨hpart, hmore⟩ := List.forall_mem_cons.mp hparts
    have hjoin : before ++ ((part :: parts).flatMap (· ++ ['|']) ++ last) ++ after =
        ((before ++ part) :: parts).flatMap (· ++ ['|']) ++ (last ++ after) := by simp
    have hpadded : ∀ p ∈ (before ++ part) :: parts, '|' ∉ p :=
      List.forall_mem_cons.mpr ⟨by simp [hbarBefore, hpart], hmore⟩
    have hfirst := Text.trim_padded hbefore (by simp : ∀ c ∈ [], Text.isBlank c) part
    have hend := Text.trim_padded (by simp : ∀ c ∈ [], Text.isBlank c) hafter last
    rw [List.append_nil] at hfirst
    rw [List.nil_append] at hend
    rw [hjoin, pieces_join hpadded (by simp [hlast, hbarAfter]), pieces_join hparts hlast]
    simp [hfirst, hend]

variable [Pattern.Limit]

/-- White space around modifiers makes no difference to them. -/
theorem Chain.parse_spaced (m : Option Text) :
    Chain.parse (Spelling.suffix (spaced m)) = Chain.parse (m.getD []) := by
  rw [Chain.parse_suffix]
  cases m with
  | none => rfl
  | some t =>
    have hblank : ∀ c ∈ [' '], Text.isBlank c := by simp [Text.isBlank]
    have htrim := map_trim_pieces_padded hblank hblank t
    show Chain.parse ([' '] ++ t ++ [' ']) = Chain.parse t
    rw [Chain.parse, Chain.parse, htrim]

theorem processLine_referenceLine {key : Text} {m : Option Text}
    (hkey : IsName [':', '}', '|'] key) (hm : ∀ t ∈ m, '}' ∉ t ∧ '$' ∉ t) :
    processLine (referenceLine key m) =
      resolveDeep (.setting key) >>= fun t => Action.ofStep (modified m t) := by
  have hblank : ∀ c ∈ [' '], Text.isBlank c := by simp [Text.isBlank]
  have hline : referenceLine key m =
      (Spelling.reference [' '] [] key [' '] (spaced m)).text := by
    cases m <;> simp [referenceLine, spaced, Spelling.text, Spelling.suffix]
  have hspaced : ∀ t ∈ spaced m, '}' ∉ t ∧ '$' ∉ t := by
    intro t ht
    obtain ⟨u, hu, rfl⟩ := Option.map_eq_some_iff.mp ht
    simpa using hm u hu
  have hmodified : modified (spaced m) = modified m := by
    funext t
    rw [modified, ← Chain.parse_suffix, Chain.parse_spaced, modified]
  rw [hline, processLine_reference hblank (by simp) hblank hkey hspaced, hmodified]

theorem processLine_eq_fillSecrets (site : Site) (cache : Cache) {value : Text}
    (hcomment : isComment value = false)
    (hdialect : Dialect.secret.occursIn value = true ∨ Dialect.reference.occursIn value = false) :
    (processLine value site cache).result = (fillSecrets value site cache).result ∧
      (processLine value site cache).trace = (fillSecrets value site cache).trace := by
  cases hsecret : Dialect.secret.occursIn value with
  | true =>
    have hline : dialect? value = some .secret := by simp [dialect?, hcomment, hsecret]
    rw [processLine_of_secret hline]
    split
    · -- The warning that is given first shows neither in the result nor in the trace.
      rw [trace_bind_of_ok rfl, bind_of_ok rfl]
      exact ⟨rfl, rfl⟩
    · exact ⟨rfl, rfl⟩
  | false =>
    have hreference : Dialect.reference.occursIn value = false := by simpa [hsecret] using hdialect
    have hline : dialect? value = none := by simp [dialect?, hcomment, hsecret, hreference]
    rw [processLine_of_no_dialect hline, fillSecrets, fillLine_of_not_occursIn _ hsecret]
    exact ⟨rfl, rfl⟩

end Filled

section Lookups

variable [Pattern.Limit] {site : Site} {cache : Cache} {s : Settings}

theorem resolveDeep_of_settings (hs : cache.settings = some s) (key : Text) :
    resolveDeep (.setting key) site cache = fillSecrets ((s.get? key).getD []) site cache := by
  rw [resolveDeep_setting, resolveReference_bind_of_settings hs]

theorem trace_resolveDeep_of_settings (hs : cache.settings = some s) (key : Text) :
    (resolveDeep (.setting key) site cache).trace =
      (Trace.ofFields site cache (fieldsIn ((s.get? key).getD []))).breakingOff
        (Template.ofLine .secret ((s.get? key).getD [])).breach? := by
  rw [resolveDeep_of_settings hs, trace_fillSecrets, trace_resolveFields]

/-- The step out of bounds among modifiers is the same for all values. -/
theorem modified_eq_error_iff {m : Option Text} {t : Text} {b : Breach} :
    modified m t = .error b ↔
      (Chain.parse (m.getD [])).lineModifiers.findSome? Modifier.breach? = some b := by
  rw [modified, Chain.applyLine_eq_foldlM, Modifier.foldlM_applyLine_eq_error_iff]

/-- The line under its modifiers has what the value as a line comes to, and the same trace up to a step
out of bounds among the modifiers. -/
theorem processLine_referenceLine_eq (site : Site) (hs : cache.settings = some s)
    {key value : Text} (hvalue : s.get? key = some value) (hcomment : isComment value = false)
    (hdialect : Dialect.secret.occursIn value = true ∨ Dialect.reference.occursIn value = false)
    (hkey : IsName [':', '}', '|'] key) {m : Option Text} (hm : ∀ t ∈ m, '}' ∉ t ∧ '$' ∉ t) :
    (processLine (referenceLine key m) site cache).result =
        ((processLine value site cache).result >>= fun t => (modified m t).mapError .breach) ∧
      (processLine (referenceLine key m) site cache).trace =
        (processLine value site cache).trace.breakingOff
          ((Chain.parse (m.getD [])).lineModifiers.findSome? Modifier.breach?) := by
  obtain ⟨hresult, htrace⟩ := processLine_eq_fillSecrets site cache hcomment hdialect
  have hresolve : resolveDeep (.setting key) site cache = fillSecrets value site cache := by
    rw [resolveDeep_of_settings hs, hvalue, Option.getD_some]
  rw [processLine_referenceLine hkey hm, trace_bind_ofStep fun t _ b => modified_eq_error_iff,
    hresolve, hresult, htrace, ← hresolve]
  refine ⟨?_, rfl⟩
  cases ht : (resolveDeep (.setting key) site cache).result with
  | error stop => rw [bind_of_error ht]; rfl
  | ok t => rw [bind_of_ok ht]; rfl

/-- A line of references asks at most once for each secret that its settings hold. -/
theorem length_requests_of_references (hs : cache.settings = some s) {line : Text}
    (h : dialect? line = some .reference) :
    (processLine line site cache).trace.requests.length ≤
      ((keysIn line).flatMap fun key => Dialect.secret.find ((s.get? key).getD [])).length := by
  rw [trace_processLine_of_reference h, ← trace_resolveKeys, trace_resolveKeys_of_settings hs,
    trace_resolveFields, Trace.requests_breakingOff, Trace.requests_breakingOff]
  refine Nat.le_trans (Trace.length_requests_ofFields_le _)
    (Nat.le_trans (length_flatMap_filledUpTo_le fieldsIn _) (Nat.le_of_eq ?_))
  simp only [List.length_flatMap, List.map_map, Function.comp_def, length_fieldsIn]

/-- A reference to a stored setting comes to what the value of the setting comes to as a line, under
the modifiers of the reference, and breaks off where these do.  The secrets of the value are looked up
and nothing that comes of them. -/
theorem referenceLine_agrees {content : Text} (hparse : Settings.parse content = .ok s)
    {key value : Text} (hkey : s.get? key = some value) (hbrace : '}' ∉ key) (hbar : '|' ∉ key)
    (site : Site) {cache : Cache} (hcache : cache.settings = some s) :
    (isComment value = false →
      Dialect.secret.occursIn value = true ∨ Dialect.reference.occursIn value = false →
      (processLine (referenceLine key none) site cache).result =
          (processLine value site cache).result ∧
        (processLine (referenceLine key none) site cache).trace =
          (processLine value site cache).trace ∧
        ∀ m, '}' ∉ m → '$' ∉ m →
          (processLine (referenceLine key (some m)) site cache).result =
              ((processLine value site cache).result >>= fun t =>
                ((Chain.parse m).applyLine ((Chain.parse m).applyData t)).mapError .breach) ∧
            (processLine (referenceLine key (some m)) site cache).trace =
              (processLine value site cache).trace.breakingOff
                ((Chain.parse m).lineModifiers.findSome? Modifier.breach?)) ∧
    resolveDeep (.setting key) site cache =
      (resolveFields (fieldsIn value) >>= fun found =>
        Action.ofStep ((Template.ofLine .secret value).render found)) site cache ∧
    (resolveDeep (.setting key) site cache).trace.requests.length ≤
      (Dialect.secret.find value).length ∧
    ((∀ f, (resolveDeep (.setting key) site cache).result ≠ .error (.failure f)) →
      (resolveDeep (.setting key) site cache).trace.requests.length =
        (Dialect.secret.find value).length) ∧
    (∀ line, dialect? line = some .reference →
      (processLine line site cache).trace.requests.length ≤
        ((keysIn line).flatMap fun k => Dialect.secret.find ((s.get? k).getD [])).length) := by
  have hvalue : (s.get? key).getD [] = value := by rw [hkey, Option.getD_some]
  have hresolve : resolveDeep (.setting key) site cache = fillSecrets value site cache := by
    rw [resolveDeep_of_settings hcache, hvalue]
  have htrace : (resolveDeep (.setting key) site cache).trace =
      (Trace.ofFields site cache (fieldsIn value)).breakingOff
        (Template.ofLine .secret value).breach? := by
    rw [trace_resolveDeep_of_settings hcache, hvalue]
  have hname : IsName [':', '}', '|'] key :=
    (Settings.isKey_of_get? hparse hkey).1.name.of_stops (by simp [hbrace, hbar])
  refine ⟨?agree, ?oneLevel, ?atMost, ?exactly, fun line h => length_requests_of_references hcache h⟩
  case agree =>
    intro hcomment hdialect
    obtain ⟨hresult, htrace⟩ :=
      processLine_referenceLine_eq (m := none) site hcache hkey hcomment hdialect hname (by simp)
    refine ⟨hresult.trans (bind_pure _), htrace.trans (Trace.breakingOff_none _), fun m hm hm' => ?_⟩
    exact processLine_referenceLine_eq site hcache hkey hcomment hdialect hname
      (by simpa using ⟨hm, hm'⟩)
  case oneLevel => rw [hresolve, fillSecrets_eq]
  case atMost =>
    rw [htrace, ← length_fieldsIn]
    exact Trace.length_requests_ofFields_le _
  case exactly =>
    intro hfine
    have hnone : (Trace.ofFields site cache (fieldsIn value)).stop = none := by
      refine Trace.stop_ofFields_eq_none fun f hf => hfine f ?_
      rw [← trace_stop_eq_some_iff, htrace, Trace.stop_breakingOff_eq_failure_iff, hf]
    rw [htrace, Trace.requests_breakingOff, Trace.length_requests_ofFields hnone, length_fieldsIn]

end Lookups

open scoped Pattern.Estimate in
/-- A secret in a setting is filled in, and a reference beside it is not. -/
theorem referenceLine_agrees_reference_beside_secret :
    (processLine (referenceLine ['K'] (some "base64".toList))
      { world :=
          { disk := { wording := fun _ _ _ => [] }, environment := [],
            answer := fun _ => .ok
              { status := 200,
                body :=
                  "\x7b\"data\":\x7b\"data\":\x7b\"k\":\"$\x7bref:K\x7d\"\x7d\x7d\x7d".toList } },
        settingsPath := { text := [] } }
      { session := some { host := "http://[::1]".toList, token := ['t'] },
        settings := some
          { entries := [(['K'], "$\x7bsecret:p@k\x7d $\x7bref:K\x7d".toList)] } }).result =
      .ok "JHtyZWY6S30gJHtyZWY6S30=".toList := by
  have hparse : Settings.parse "K=$\x7bsecret:p@k\x7d $\x7bref:K\x7d\n".toList =
      .ok { entries := [(['K'], "$\x7bsecret:p@k\x7d $\x7bref:K\x7d".toList)] } := by decide +kernel
  have hkey : Settings.get? { entries := [(['K'], "$\x7bsecret:p@k\x7d $\x7bref:K\x7d".toList)] }
      ['K'] = some "$\x7bsecret:p@k\x7d $\x7bref:K\x7d".toList := by decide +kernel
  refine ((((referenceLine_agrees hparse hkey (by decide) (by decide) _ ?held).1 ?comment
    (Or.inl ?secret)).2.2 "base64".toList ?brace ?dollar).1).trans ?filled
  case held => rfl
  case comment => decide +kernel
  case secret => decide +kernel
  case brace => decide +kernel
  case dollar => decide +kernel
  case filled => decide +kernel

open scoped Pattern.Estimate in
/-- An empty value is filled in by itself, but not under an indentation that is too wide. -/
theorem referenceLine_breaks_off_on_its_own :
    Settings.parse "K=\n".toList = .ok { entries := [(['K'], [])] } ∧
      (processLine []
        { world := { disk := { wording := fun _ _ _ => [] }, environment := [],
                     answer := fun _ => .error [] },
          settingsPath := { text := [] } }
        { settings := some { entries := [(['K'], [])] } }).result = .ok [] ∧
      ¬∃ t, (processLine (referenceLine ['K'] (some "indent9223372036854775808".toList))
        { world := { disk := { wording := fun _ _ _ => [] }, environment := [],
                     answer := fun _ => .error [] },
          settingsPath := { text := [] } }
        { settings := some { entries := [(['K'], [])] } }).result = .ok t := by
  have hblank : ∀ c ∈ [' '], Text.isBlank c := by simp [Text.isBlank]
  have hparse : Chain.parse "indent9223372036854775808".toList =
      { parsed := [.recognized (.indent 9223372036854775808)] } := by
    have hpadded := map_trim_pieces_padded hblank (List.forall_mem_nil _)
      "indent9223372036854775808".toList
    rw [List.append_nil] at hpadded
    rw [← parse_wide_indentation, Chain.parse, ← hpadded]
    rfl
  refine ⟨by decide +kernel, rfl, ?_⟩
  have hname : IsName [':', '}', '|'] ['K'] := ⟨by decide, by decide, by simp⟩
  have htrace : ∀ site (cache : Cache), cache.settings = some { entries := [(['K'], [])] } →
      (processLine (referenceLine ['K'] (some "indent9223372036854775808".toList)) site cache).trace =
        (processLine [] site cache).trace.breakingOff
          ((Chain.parse ((some "indent9223372036854775808".toList).getD [])).lineModifiers.findSome?
            Modifier.breach?) :=
    fun site cache hs => (processLine_referenceLine_eq site hs rfl rfl (Or.inr rfl) hname
      (by rintro t ⟨⟩; decide)).2
  rw [← trace_stop_eq_none_iff, htrace _ _ rfl, Trace.breakingOff, Option.or_eq_none_iff,
    Option.map_eq_none_iff, Option.getD_some, hparse]
  exact fun h => absurd (h.2.symm.trans
    (findSome?_breach?_indent (List.forall_mem_nil _) (by decide) [])) (by simp)

end Infill
