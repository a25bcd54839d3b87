import Infill.Pattern.Estimate
import Infill.Proofs.Answer
import Infill.Proofs.Reference
import Infill.Proofs.Settings.Meaning

/-!
# Which settings can be named

A file and a reference end and trim a key by rules of their own.  They agree: whatever key a file
stores can be named in a reference, unless an end of placeholders is in it, and a name that no file
can store gives nothing (`stored_keys_are_named`).
-/

namespace Infill.Settings

open Infill.Action

/-- No file stores the key: a delimiter is in it, or a line that starts with it is a comment. -/
inductive NeverStored (key : Text) : Prop
  | delimiter (inside : '=' ∈ key ∨ ':' ∈ key)
  | comment (first : key.head? = some '#' ∨ key.head? = some ';')

section Naming

variable {disk : Disk} {path : Path} {s : Settings} {key value : Text}

theorem exists_parse_of_load (h : load disk path = .ok s) :
    ∃ content, disk.read path = .ok content ∧ parse content = .ok s := by
  unfold load at h
  split at h
  · contradiction
  · split at h
    · contradiction
    · next content hread =>
      split at h
      · next settings hparse =>
        obtain rfl := Except.ok.inj h
        exact ⟨content, hread, hparse⟩
      · contradiction

theorem IsKey.not_neverStored (h : IsKey key) : ¬ NeverStored key := by
  obtain ⟨hname, hmark⟩ := h
  rintro (hinside | hfirst)
  · rcases hinside with hmem | hmem
    · exact hname.noStop _ hmem (by decide)
    · exact hname.noStop _ hmem (by decide)
  · rcases hfirst with hhead | hhead
    · exact absurd (hmark _ hhead) (by decide)
    · exact absurd (hmark _ hhead) (by decide)

theorem get?_of_neverStored (h : load disk path = .ok s) (hkey : NeverStored key) :
    s.get? key = none := by
  obtain ⟨content, -, hparse⟩ := exists_parse_of_load h
  cases hvalue : s.get? key with
  | none => rfl
  | some value => exact absurd hkey (isKey_of_get? hparse hvalue).1.not_neverStored

variable [Pattern.Limit]

theorem resolveDeep_of_no_secret {site : Site} {cache : Cache} (hhand : AtHand site cache s)
    (hsecret : Dialect.secret.occursIn ((s.get? key).getD []) = false) :
    (resolveDeep (.setting key) site cache).result = .ok ((s.get? key).getD []) :=
  value_iff.mp (.plain (atHand_iff.mp hhand) hsecret)

/-- Whatever key a file stores is looked up by the reference that names it, with any white space
around it, and gives its value, unless there is an end of placeholders in the key or a secret in the
value.  What a reference names and no file stores is empty. -/
theorem stored_keys_are_named (h : load disk path = .ok s) (site : Site) (cache : Cache)
    (hhand : AtHand site cache s) :
    (∀ key value lead beforeKey afterKey, s.get? key = some value → '}' ∉ key → '|' ∉ key →
      (∀ gap ∈ [lead, beforeKey, afterKey], ∀ c ∈ gap, Text.isBlank c) →
        let line := ['$', '{'] ++ lead ++ "ref:".toList ++ beforeKey ++ key ++ afterKey ++ ['}']
        keysIn line = [key] ∧ processLine line = resolveDeep (.setting key) ∧
          (Dialect.secret.occursIn value = false →
            (processLine line site cache).result = .ok value)) ∧
    ∀ line key, dialect? line = some .reference → key ∈ keysIn line → NeverStored key →
      s.get? key = none ∧ (resolveDeep (.setting key) site cache).result = .ok [] := by
  constructor
  · intro key value lead beforeKey afterKey hvalue hbrace hbar hgaps
    simp only [List.forall_mem_cons] at hgaps
    obtain ⟨hlead, hbefore, hafter, -⟩ := hgaps
    obtain ⟨content, -, hparse⟩ := exists_parse_of_load h
    have hname : IsName [':', '}', '|'] key :=
      (isKey_of_get? hparse hvalue).1.name.of_stops (by simp [hbrace, hbar])
    have hspelled : ['$', '{'] ++ lead ++ "ref:".toList ++ beforeKey ++ key ++ afterKey ++ ['}'] =
        (Spelling.reference lead beforeKey key afterKey none).text := by
      simp only [Spelling.text, Spelling.suffix, List.append_nil]
      rfl
    have hprocess : processLine (Spelling.reference lead beforeKey key afterKey none).text =
        resolveDeep (.setting key) := by
      rw [processLine_reference hlead hbefore hafter hname (by simp)]
      exact bind_pure _
    dsimp only
    rw [hspelled, hprocess]
    refine ⟨keysIn_reference hlead hbefore hafter hname (by simp), rfl, ?_⟩
    intro hsecret
    have hget : (s.get? key).getD [] = value := by
      rw [hvalue]
      rfl
    have hresolve := resolveDeep_of_no_secret hhand (hget ▸ hsecret)
    rwa [hget] at hresolve
  · intro line key _ _ hnever
    have hnone := get?_of_neverStored h hnever
    refine ⟨hnone, ?_⟩
    have hresolve := @resolveDeep_of_no_secret s key _ _ _ hhand (by rw [hnone]; rfl)
    rwa [hnone] at hresolve

end Naming

open scoped Pattern.Estimate in
/-- A key that a placeholder seems to start in is named, behind a tab and an em space. -/
theorem stored_keys_are_named_dollar :
    (processLine "$\x7b\tref:\u2003a $\x7b@\"b \x7d".toList
      { world :=
          { disk :=
              { files := [([.name ['f']],
                  { content := Utf8.encode "# c\na $\x7b@\"b = v # c\n".toList,
                    modified := { nanos := 0 } })],
                wording := fun _ _ _ => [] },
            environment := [], answer := fun _ => .error [] },
        settingsPath := { text := ['f'] } } {}).result = .ok ['v'] := by
  let disk : Disk :=
    { files := [([.name ['f']],
        { content := Utf8.encode "# c\na $\x7b@\"b = v # c\n".toList,
          modified := { nanos := 0 } })],
      wording := fun _ _ _ => [] }
  have hload : load disk { text := ['f'] } =
      .ok { entries := [("a $\x7b@\"b".toList, ['v'])] } := by decide +kernel
  have hgaps : ∀ gap ∈ [['\t'], ['\u2003'], [' ']], ∀ c ∈ gap, Text.isBlank c := by
    simp [Text.isBlank]
  have hnamed := (stored_keys_are_named hload
    { world := { disk, environment := [], answer := fun _ => .error [] },
      settingsPath := { text := ['f'] } } {} (.loaded rfl hload)).1
  exact (hnamed "a $\x7b@\"b".toList ['v'] _ _ _ (by decide +kernel) (by decide) (by decide)
    hgaps).2.2 (by decide +kernel)

end Infill.Settings
