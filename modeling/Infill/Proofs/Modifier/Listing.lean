import Infill.Modifier.Basic
import Infill.Pattern.Estimate
import Infill.Proofs.Text

/-!
# Values that are lists

A value can be a list with commas between its elements.  Selecting takes one of the elements or leaves
the value, so that selecting again changes nothing; looking up a key takes what the first entry with
that key assigns to it (`list_modifiers`).
-/

namespace Infill

/-- The ways to write an element of a list: a key with its value, or a text that is no entry. -/
inductive ElementText : Option (Text × Text) → Text → Prop
  | entry {key value beforeKey afterKey beforeValue afterValue : Text}
      (written : key ≠ []) (keyTrimmed : Text.trim key = key) (keyOne : ',' ∉ key)
      (keyBare : '=' ∉ key) (valueTrimmed : Text.trim value = value) (valueOne : ',' ∉ value)
      (blankBeforeKey : ∀ c ∈ beforeKey, Text.isBlank c)
      (blankAfterKey : ∀ c ∈ afterKey, Text.isBlank c)
      (blankBeforeValue : ∀ c ∈ beforeValue, Text.isBlank c)
      (blankAfterValue : ∀ c ∈ afterValue, Text.isBlank c) :
      ElementText (some (key, value))
        (beforeKey ++ key ++ afterKey ++ '=' :: (beforeValue ++ value ++ afterValue))
  | other {text : Text} (one : ',' ∉ text) (bare : '=' ∉ text) : ElementText none text

/-- The ways to write a list with the given entries. -/
inductive ListText : List (Text × Text) → Text → Prop
  | last {entry : Option (Text × Text)} {text : Text} (writes : ElementText entry text) :
      ListText entry.toList text
  | more {entry : Option (Text × Text)} {entries : List (Text × Text)} {text rest : Text}
      (writes : ElementText entry text) (more : ListText entries rest) :
      ListText (entry.toList ++ entries) (text ++ ',' :: rest)

section Selection

variable [Pattern.Limit] (value pattern : Text)

/-- What is selected is the value, or an element that the pattern fits. -/
theorem selectMatching_cases : selectMatching value pattern = value ∨
    ∃ compiled, Pattern.compile (Pattern.anchored pattern) = .ok compiled ∧
      ∃ element ∈ pieces ',' value, selectMatching value pattern = Text.trim element ∧
        compiled.occursIn (Text.trim element) = true := by
  rw [selectMatching]
  split
  · exact Or.inl rfl
  · next compiled hcompile =>
    cases hfind : ((pieces ',' value).map Text.trim).find? compiled.occursIn with
    | none => exact Or.inl rfl
    | some found =>
      obtain ⟨element, helement, hfound⟩ := List.mem_map.mp (List.mem_of_find?_eq_some hfind)
      exact Or.inr ⟨compiled, hcompile, element, helement, hfound.symm,
        hfound ▸ List.find?_some hfind⟩

/-- An element that the pattern fits is selected from itself. -/
theorem selectMatching_of_occursIn {element : Text} {compiled : Pattern}
    (hcompile : Pattern.compile (Pattern.anchored pattern) = .ok compiled) (hone : ',' ∉ element)
    (htrimmed : Text.trim element = element) (hfits : compiled.occursIn element = true) :
    selectMatching element pattern = element := by
  rw [selectMatching, hcompile]
  simp [pieces_of_not_mem hone, htrimmed, hfits]

end Selection

section Lookup

variable {entry : Option (Text × Text)} {entries : List (Text × Text)} {text key : Text}

theorem ElementText.not_mem_comma (h : ElementText entry text) : ',' ∉ text := by
  have hgap : ∀ {gap : Text}, (∀ c ∈ gap, Text.isBlank c) → ',' ∉ gap := by
    intro gap hblank hmem
    exact absurd (hblank ',' hmem) (by decide)
  cases h with
  | entry _ _ keyOne _ _ valueOne blankBeforeKey blankAfterKey blankBeforeValue blankAfterValue =>
    simp [keyOne, valueOne, hgap blankBeforeKey, hgap blankAfterKey, hgap blankBeforeValue,
      hgap blankAfterValue]
  | other one => exact one

/-- The entry that an element is. -/
def entryIn? (element : Text) : Option (Text × Text) :=
  (cutAt? (· == '=') element).map fun cut => (Text.trim cut.1, Text.trim cut.2)

/-- The entries of a list, in order. -/
def entriesIn (text : Text) : List (Text × Text) := (pieces ',' text).filterMap entryIn?

theorem dictLookup_eq (text key : Text) : dictLookup text key =
    (((entriesIn text).find? fun entry => entry.1 == key).map Prod.snd).getD text := by
  have hentries : entriesIn text = ((pieces ',' text).filterMap (cutAt? (· == '='))).map
      fun cut => (Text.trim cut.1, Text.trim cut.2) := List.map_filterMap.symm
  rw [hentries, List.find?_map]
  simp only [dictLookup, Function.comp_def]
  split
  · next hnone => rw [hnone]; rfl
  · next hsome => rw [hsome]; rfl

/-- An element is cut at its first `=`, and white space around the parts does not count. -/
theorem ElementText.entryIn?_eq (h : ElementText entry text) : entryIn? text = entry := by
  have hgap : ∀ {gap : Text}, (∀ c ∈ gap, Text.isBlank c) → '=' ∉ gap := by
    intro gap hblank hmem
    exact absurd (hblank '=' hmem) (by decide)
  have hpass : ∀ {t : Text}, '=' ∉ t → ∀ c ∈ t, (c == '=') = false := by
    intro t hbare c hc
    rw [beq_eq_false_iff_ne]
    rintro rfl
    exact hbare hc
  cases h with
  | @entry key value beforeKey afterKey beforeValue afterValue _ keyTrimmed _ keyBare valueTrimmed _
      blankBeforeKey blankAfterKey blankBeforeValue blankAfterValue =>
    have hfront : '=' ∉ beforeKey ++ key ++ afterKey := by
      simp [hgap blankBeforeKey, hgap blankAfterKey, keyBare]
    rw [entryIn?, cutAt?_append (hpass hfront) (by decide), Option.map_some,
      Text.trim_padded blankBeforeKey blankAfterKey, keyTrimmed,
      Text.trim_padded blankBeforeValue blankAfterValue, valueTrimmed]
  | other _ bare => rw [entryIn?, cutAt?_eq_none_iff.mpr (hpass bare), Option.map_none]

/-- A list is read back as the entries that have been written. -/
theorem ListText.entriesIn_eq (h : ListText entries text) : entriesIn text = entries := by
  have hone : ∀ {entry text}, ElementText entry text → entriesIn text = entry.toList := by
    intro entry text h
    rw [entriesIn, pieces_of_not_mem h.not_mem_comma]
    simp only [List.filterMap_cons, h.entryIn?_eq, List.filterMap_nil]
    cases entry <;> rfl
  induction h with
  | last writes => exact hone writes
  | @more entry entries text rest writes _ ih =>
    rw [← hone writes, ← ih, entriesIn, entriesIn, entriesIn, pieces_append_sep,
      List.filterMap_append]

end Lookup

/-- Selecting twice is selecting once, and gives the value or one of its elements.  A key is looked up
to the value of its first entry, or to the whole list if no entry has it. -/
theorem list_modifiers [Pattern.Limit] (value pattern : Text) :
    selectMatching (selectMatching value pattern) pattern = selectMatching value pattern ∧
    (selectMatching value pattern = value ∨
      (∃ element ∈ pieces ',' value, selectMatching value pattern = Text.trim element) ∧
        Text.trim (selectMatching value pattern) = selectMatching value pattern ∧
        ',' ∉ selectMatching value pattern) ∧
    ∀ entries text, ListText entries text → ∀ key,
      (∀ before found after, entries = before ++ (key, found) :: after →
        (∀ entry ∈ before, entry.1 ≠ key) → dictLookup text key = found) ∧
      ((∀ entry ∈ entries, entry.1 ≠ key) → dictLookup text key = text) := by
  refine ⟨?twice, ?element, ?lookup⟩
  case twice =>
    rcases selectMatching_cases value pattern with hsame | ⟨compiled, hcompile, element, helement,
      hselected, hfits⟩
    · rw [hsame, hsame]
    · rw [hselected]
      exact selectMatching_of_occursIn pattern hcompile
        (fun hmem => not_mem_of_mem_pieces helement (Text.mem_of_mem_trim hmem))
        (Text.trim_trim element) hfits
  case element =>
    rcases selectMatching_cases value pattern with hsame | ⟨-, -, element, helement, hselected, -⟩
    · exact Or.inl hsame
    · refine Or.inr ⟨⟨element, helement, hselected⟩, ?_, ?_⟩
      · rw [hselected, Text.trim_trim]
      · rw [hselected]
        exact fun hmem => not_mem_of_mem_pieces helement (Text.mem_of_mem_trim hmem)
  case lookup =>
    intro entries text htext key
    rw [dictLookup_eq, htext.entriesIn_eq]
    constructor
    · rintro before found after rfl hbefore
      have hnone : before.find? (fun entry => entry.1 == key) = none := by
        simpa [List.find?_eq_none] using hbefore
      rw [List.find?_append, hnone, Option.none_or, List.find?_cons_of_pos (by simp)]
      rfl
    · intro hnever
      have hnone : entries.find? (fun entry => entry.1 == key) = none := by
        simpa [List.find?_eq_none] using hnever
      rw [hnone]
      rfl

open scoped Pattern.Estimate in
/-- An element without `=`, a value with one, and a key that comes twice. -/
theorem list_modifiers_key_twice :
    ListText [(['b'], "2=3".toList), (['b'], ['4'])] "x, b = 2=3 ,b=4".toList ∧
      dictLookup "x, b = 2=3 ,b=4".toList ['b'] = "2=3".toList ∧
      dictLookup "x, b = 2=3 ,b=4".toList ['x'] = "x, b = 2=3 ,b=4".toList := by
  have hnone : ∀ c ∈ ([] : Text), Text.isBlank c := fun _ hc => absurd hc List.not_mem_nil
  have hblank : ∀ c ∈ [' '], Text.isBlank c := List.forall_mem_singleton.mpr rfl
  have hfirst : ElementText (some (['b'], "2=3".toList)) " b = 2=3 ".toList :=
    @ElementText.entry ['b'] "2=3".toList [' '] [' '] [' '] [' '] (by decide) (by decide)
      (by decide) (by decide) (by decide) (by decide) hblank hblank hblank hblank
  have hsecond : ElementText (some (['b'], ['4'])) "b=4".toList :=
    @ElementText.entry ['b'] ['4'] [] [] [] [] (by decide) (by decide) (by decide) (by decide)
      (by decide) (by decide) hnone hnone hnone hnone
  have hlist : ListText [(['b'], "2=3".toList), (['b'], ['4'])] "x, b = 2=3 ,b=4".toList :=
    .more (@ElementText.other ['x'] (by decide) (by decide)) (.more hfirst (.last hsecond))
  obtain ⟨-, -, hlookup⟩ := list_modifiers [] []
  exact ⟨hlist, (hlookup _ _ hlist ['b']).1 [] _ _ rfl (by simp),
    (hlookup _ _ hlist ['x']).2 (by simp)⟩

end Infill
