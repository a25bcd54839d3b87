import Infill.Proofs.Placeholder.Writing

/-!
# Finding placeholders

`CutOf` describes the template of a line by the places where no placeholder starts, and
`ReferenceScan` says which placeholders are to be found, by byte offsets: the leftmost one, then the
leftmost one behind its end, and so on.  `Dialect.find` finds exactly these.
-/

namespace Infill

namespace Dialect

/-- No placeholder starts at a character of `t`, when `rest` stands behind it. -/
def NoStart (d : Dialect) (t rest : Text) : Prop :=
  ∀ before after, t = before ++ after → after ≠ [] → d.opens? (after ++ rest) = none

theorem noStart_nil (d : Dialect) (rest : Text) : d.NoStart [] rest := by
  intro before after h hne
  simp_all

theorem noStart_cons {d : Dialect} {c : Char} {t rest : Text} :
    d.NoStart (c :: t) rest ↔ d.opens? (c :: t ++ rest) = none ∧ d.NoStart t rest := by
  constructor
  · intro h
    refine ⟨h [] (c :: t) rfl (by simp), fun before after ht hne => ?_⟩
    exact h (c :: before) after (by rw [ht, List.cons_append]) hne
  · rintro ⟨hfirst, hlater⟩ before after h hne
    cases before with
    | nil => rw [List.nil_append] at h; rwa [← h]
    | cons b before =>
      rw [List.cons_append, List.cons.injEq] at h
      exact hlater before after h.2 hne

theorem text_ne_nil_of_opens? {d : Dialect} {t : Text} {p : Placeholder}
    (h : d.opens? t = some p) : p.text ≠ [] := by
  obtain ⟨rest, -, hwritten⟩ := opens?_eq_some_iff.mp h
  exact hwritten.ne_nil

/-- A text with nothing but literal text in it, or one with a first placeholder. -/
theorem noStart_or_exists_first (d : Dialect) (t : Text) :
    d.NoStart t [] ∨ ∃ before p rest, t = before ++ (p.text ++ rest) ∧
      d.NoStart before (p.text ++ rest) ∧ d.opens? (p.text ++ rest) = some p := by
  induction t with
  | nil => exact Or.inl (noStart_nil d [])
  | cons c t ih =>
    cases hopen : d.opens? (c :: t) with
    | some p =>
      obtain ⟨rest, htext, -⟩ := opens?_eq_some_iff.mp hopen
      exact Or.inr ⟨[], p, rest, htext, noStart_nil d _, htext ▸ hopen⟩
    | none =>
      rcases ih with hnone | ⟨before, p, rest, rfl, hbefore, hp⟩
      · exact Or.inl (noStart_cons.mpr ⟨by rwa [List.append_nil], hnone⟩)
      · exact Or.inr ⟨c :: before, p, rest, rfl, noStart_cons.mpr ⟨hopen, hbefore⟩, hp⟩

theorem occursIn_iff_not_noStart {d : Dialect} {t : Text} :
    d.occursIn t = true ↔ ¬ d.NoStart t [] := by
  induction t with
  | nil =>
    have hnone : d.opens? [] = none := by
      by_contra hsome
      obtain ⟨p, hp⟩ := Option.ne_none_iff_exists'.mp hsome
      obtain ⟨rest, htext, -⟩ := opens?_eq_some_iff.mp hp
      exact text_ne_nil_of_opens? hp (List.append_eq_nil_iff.mp htext.symm).1
    simp [occursIn, hnone, noStart_nil]
  | cons c t ih =>
    rw [occursIn, Bool.or_eq_true, ih, noStart_cons, List.append_nil, not_and_or,
      Option.isSome_iff_ne_none]

theorem not_occursIn_iff {d : Dialect} {t : Text} : d.occursIn t = false ↔ d.NoStart t [] := by
  rw [← Bool.not_eq_true, occursIn_iff_not_noStart, not_not]

end Dialect

namespace Template

/-- The template of a text: no placeholder starts in the literal texts. -/
inductive CutOf (d : Dialect) : Text → Template → Prop
  | literal {t : Text} (noStart : d.NoStart t []) : CutOf d t { holes := [], tail := t }
  | hole {before rest : Text} {p : Placeholder} {more : Template}
      (noStart : d.NoStart before (p.text ++ rest)) (opens : d.opens? (p.text ++ rest) = some p)
      (cut : CutOf d rest more) :
      CutOf d (before ++ (p.text ++ rest)) { more with holes := (before, p) :: more.holes }

theorem scan_of_noStart {d : Dialect} {before rest : Text} (h : d.NoStart before rest)
    (seen : Text) : scan d 0 seen (before ++ rest) = scan d 0 (before.reverse ++ seen) rest := by
  induction before generalizing seen with
  | nil => rfl
  | cons c before ih =>
    obtain ⟨hfirst, hlater⟩ := Dialect.noStart_cons.mp h
    rw [List.cons_append] at hfirst ⊢
    rw [scan, hfirst]
    simp [ih hlater]

theorem scan_skip (d : Dialect) (gone seen rest : Text) :
    scan d gone.length seen (gone ++ rest) = scan d 0 seen rest := by
  induction gone with
  | nil => rfl
  | cons c gone ih => exact ih

/-- A placeholder is recorded, and the scan goes on behind it. -/
theorem scan_of_opens {d : Dialect} {rest : Text} {p : Placeholder}
    (h : d.opens? (p.text ++ rest) = some p) (seen : Text) :
    scan d 0 seen (p.text ++ rest) =
      { ofLine d rest with holes := (seen.reverse, p) :: (ofLine d rest).holes } := by
  obtain ⟨c, more, htext⟩ := List.exists_cons_of_ne_nil (Dialect.text_ne_nil_of_opens? h)
  have hskip : scan d (p.text.length - 1) [] (more ++ rest) = ofLine d rest := by
    rw [htext, List.length_cons, Nat.add_sub_cancel, scan_skip, ofLine]
  rw [htext, List.cons_append] at h ⊢
  rw [scan, h]
  simp only [hskip]

theorem ofLine_of_noStart {d : Dialect} {t : Text} (h : d.NoStart t []) :
    ofLine d t = { holes := [], tail := t } := by
  have hscan := scan_of_noStart h []
  rw [List.append_nil, List.append_nil] at hscan
  rw [ofLine, hscan, scan, List.reverse_reverse]

theorem ofLine_of_opens {d : Dialect} {before rest : Text} {p : Placeholder}
    (hbefore : d.NoStart before (p.text ++ rest)) (h : d.opens? (p.text ++ rest) = some p) :
    ofLine d (before ++ (p.text ++ rest)) =
      { ofLine d rest with holes := (before, p) :: (ofLine d rest).holes } := by
  rw [ofLine, scan_of_noStart hbefore, scan_of_opens h, List.append_nil, List.reverse_reverse]

theorem cutOf_ofLine (d : Dialect) (t : Text) : CutOf d t (ofLine d t) := by
  induction hn : t.length using Nat.strong_induction_on generalizing t with
  | _ n ih =>
    rcases d.noStart_or_exists_first t with hnone | ⟨before, p, rest, rfl, hbefore, hp⟩
    · rw [ofLine_of_noStart hnone]
      exact .literal hnone
    · have hlength := List.length_pos_of_ne_nil (Dialect.text_ne_nil_of_opens? hp)
      rw [ofLine_of_opens hbefore hp]
      simp only [List.length_append] at hn
      exact .hole hbefore hp (ih rest.length (by omega) rest rfl)

/-- Nothing of a line is lost when it is cut. -/
theorem text_ofLine (d : Dialect) (t : Text) : (ofLine d t).text = t := by
  have hcut := cutOf_ofLine d t
  generalize ofLine d t = m at hcut ⊢
  induction hcut with
  | literal => rfl
  | @hole before rest p more _ _ _ ih =>
    have hmore : more.text = rest := ih
    rw [text] at hmore ⊢
    simp only [List.flatMap_cons, List.append_assoc, hmore]

end Template

namespace Dialect

theorem holes_eq_nil_iff {d : Dialect} {t : Text} :
    (Template.ofLine d t).holes = [] ↔ d.NoStart t [] := by
  rcases d.noStart_or_exists_first t with hnone | ⟨before, p, rest, rfl, hbefore, hp⟩
  · simp [Template.ofLine_of_noStart hnone, hnone]
  · simp only [Template.ofLine_of_opens hbefore hp, reduceCtorEq, false_iff]
    intro h
    have hnone := h before (p.text ++ rest) rfl (by simp [text_ne_nil_of_opens? hp])
    rw [List.append_nil, hp] at hnone
    contradiction

end Dialect

section Offsets

/-- Of two ways to cut a text, the one with more bytes in front goes on from the other one. -/
theorem split_of_size_le {b c x y : Text} (h : b ++ x = c ++ y)
    (hsize : Utf8.size b ≤ Utf8.size c) : ∃ u, c = b ++ u ∧ x = u ++ y := by
  rcases List.append_eq_append_iff.mp h with ⟨u, hc, hx⟩ | ⟨u, hb, hy⟩
  · exact ⟨u, hc, hx⟩
  · have hu : u = [] := by
      by_contra hne
      have := Utf8.size_pos hne
      rw [hb, Utf8.size_append] at hsize
      omega
    subst hu
    exact ⟨[], by simpa using hb.symm, by simpa using hy.symm⟩

/-- The text of a placeholder of the dialect stands at the bytes of an occurrence. -/
structure Stands (d : Dialect) (s : Text) (o : Occurrence) : Prop where
  written : Written d o.placeholder.text o.placeholder.target o.placeholder.modifiers
  place : ∃ before after, s = before ++ o.placeholder.text ++ after ∧
    o.start = Utf8.size before ∧ o.stop = Utf8.size before + Utf8.size o.placeholder.text

/-- The placeholders to be found in a text from a byte on: the one that starts leftmost, and those
to be found from its end on. -/
inductive ReferenceScan (d : Dialect) (s : Text) : Nat → List Occurrence → Prop
  | done {start : Nat} (noMore : ∀ o, Stands d s o → o.start < start) : ReferenceScan d s start []
  | next {start : Nat} {o : Occurrence} {found : List Occurrence} (stands : Stands d s o)
      (later : start ≤ o.start)
      (leftmost : ∀ o', Stands d s o' → start ≤ o'.start → o.start ≤ o'.start)
      (more : ReferenceScan d s o.stop found) : ReferenceScan d s start (o :: found)

variable {d : Dialect} {s : Text}

theorem Stands.start_lt_stop {o : Occurrence} (h : Stands d s o) : o.start < o.stop := by
  obtain ⟨before, after, -, hstart, hstop⟩ := h.place
  have hpos := Utf8.size_pos h.written.ne_nil
  omega

/-- At one byte stands at most one placeholder. -/
theorem Stands.eq_of_start_eq {o o' : Occurrence} (h : Stands d s o) (h' : Stands d s o')
    (hstart : o.start = o'.start) : o = o' := by
  obtain ⟨before, after, htext, hfirst, hlast⟩ := h.place
  obtain ⟨before', after', htext', hfirst', hlast'⟩ := h'.place
  rw [List.append_assoc] at htext htext'
  obtain ⟨u, hu, hrest⟩ := split_of_size_le (htext.symm.trans htext') (by omega)
  have hnil : u = [] := by
    by_contra hne
    have := Utf8.size_pos hne
    rw [hu, Utf8.size_append] at hfirst'
    omega
  have hopen := Dialect.opens?_written h.written after
  rw [hrest, hnil, List.nil_append, Dialect.opens?_written h'.written after'] at hopen
  have hp : o'.placeholder = o.placeholder := Option.some.inj hopen
  cases o
  cases o'
  simp_all

theorem referenceScan_of_cutOf {t : Text} {m : Template} (h : Template.CutOf d t m)
    (gone : Text) :
    ReferenceScan d (gone ++ t) (Utf8.size gone)
      (Template.occurrencesFrom (Utf8.size gone) m.holes) := by
  induction h generalizing gone with
  | @literal t noStart =>
    refine .done fun o ho => ?_
    by_contra hlate
    obtain ⟨before, after, htext, hstart, -⟩ := ho.place
    rw [List.append_assoc] at htext
    obtain ⟨u, -, ht⟩ := split_of_size_le htext (by omega)
    have hnone := noStart u _ ht (by simp [ho.written.ne_nil])
    rw [List.append_nil, Dialect.opens?_written ho.written after] at hnone
    contradiction
  | @hole before rest p more noStart opens _ ih =>
    obtain ⟨rest', -, hwritten⟩ := Dialect.opens?_eq_some_iff.mp opens
    have hmore := ih (gone ++ before ++ p.text)
    simp only [Utf8.size_append, List.append_assoc] at hmore
    refine .next ⟨hwritten, gone ++ before, rest, by simp, by simp, by simp⟩ (Nat.le_add_right _ _)
      ?_ (by simpa [Nat.add_assoc] using hmore)
    intro o ho hlater
    obtain ⟨front, after, htext, hstart, -⟩ := ho.place
    rw [List.append_assoc] at htext
    obtain ⟨u, rfl, hu⟩ := split_of_size_le htext (by omega)
    rw [Utf8.size_append] at hstart
    simp only [hstart, Nat.add_le_add_iff_left]
    -- A placeholder that starts earlier would start in the literal text.
    by_contra hearly
    obtain ⟨v, rfl, hv⟩ := split_of_size_le hu.symm (by omega)
    have hne : v ≠ [] := by
      rintro rfl
      simp at hearly
    have hnone := noStart u v rfl hne
    rw [← hv, Dialect.opens?_written ho.written after] at hnone
    contradiction

/-- The scan of a text can have one result only. -/
theorem ReferenceScan.unique {start : Nat} {found found' : List Occurrence}
    (h : ReferenceScan d s start found) (h' : ReferenceScan d s start found') : found = found' := by
  induction h generalizing found' with
  | done noMore =>
    cases h' with
    | done => rfl
    | next stands later =>
      have := noMore _ stands
      omega
  | @next start o found stands later leftmost _ ih =>
    cases h' with
    | done noMore =>
      have := noMore o stands
      omega
    | @next _ o' found' stands' later' leftmost' more' =>
      have hle := leftmost o' stands' later'
      have hge := leftmost' o stands later
      obtain rfl := stands.eq_of_start_eq stands' (by omega)
      rw [ih more']

theorem referenceScan_find (d : Dialect) (s : Text) : ReferenceScan d s 0 (d.find s) :=
  referenceScan_of_cutOf (Template.cutOf_ofLine d s) []

namespace ReferenceScan

variable {start : Nat} {found : List Occurrence}

theorem stands (h : ReferenceScan d s start found) :
    ∀ o ∈ found, start ≤ o.start ∧ Stands d s o := by
  induction h with
  | done => simp
  | @next start o found stands later _ _ ih =>
    intro o' ho'
    rcases List.mem_cons.mp ho' with rfl | ho'
    · exact ⟨later, stands⟩
    · have hlt := stands.start_lt_stop
      obtain ⟨hstart, hstands⟩ := ih o' ho'
      exact ⟨by omega, hstands⟩

theorem pairwise (h : ReferenceScan d s start found) :
    found.Pairwise fun o o' => o.stop ≤ o'.start := by
  induction h with
  | done => exact List.Pairwise.nil
  | next _ _ _ more ih => exact List.pairwise_cons.mpr ⟨fun o ho => (more.stands o ho).1, ih⟩

/-- Every placeholder that starts in the scanned part lies inside a found one or is found. -/
theorem covers (h : ReferenceScan d s start found) {o : Occurrence} (ho : Stands d s o)
    (hlater : start ≤ o.start) : ∃ o' ∈ found, o'.start ≤ o.start ∧ o.start < o'.stop := by
  induction h with
  | done noMore =>
    have := noMore o ho
    omega
  | @next start o' found _ _ leftmost _ ih =>
    by_cases hin : o.start < o'.stop
    · exact ⟨o', List.mem_cons_self, leftmost o ho hlater, hin⟩
    · obtain ⟨o'', hmem, hcover⟩ := ih (by omega)
      exact ⟨o'', List.mem_cons_of_mem _ hmem, hcover⟩

end ReferenceScan

theorem occursIn_iff_find_ne_nil (d : Dialect) (s : Text) :
    d.occursIn s = true ↔ d.find s ≠ [] := by
  rw [Dialect.occursIn_iff_not_noStart, ← Dialect.holes_eq_nil_iff, Ne, Dialect.find,
    Template.occurrences]
  cases (Template.ofLine d s).holes <;> simp [Template.occurrencesFrom]

/-- The bytes of an occurrence are those of its placeholder. -/
theorem Stands.bytes {o : Occurrence} (h : Stands d s o) :
    ((Utf8.encode s).drop o.start).take (o.stop - o.start) = Utf8.encode o.placeholder.text := by
  obtain ⟨before, after, htext, hstart, hstop⟩ := h.place
  simp only [Utf8.size_eq_length_encode] at hstart hstop
  rw [htext, Utf8.encode_append, Utf8.encode_append, List.append_assoc, hstart,
    List.drop_left, show o.stop - (Utf8.encode before).length =
      (Utf8.encode o.placeholder.text).length by omega, List.take_left]

/-- Placeholders are found where they are written: the leftmost first, and on from its end. -/
theorem find_eq_reference_scan (d : Dialect) (s : Text) :
    (∀ found, ReferenceScan d s 0 found ↔ found = d.find s) ∧
    (d.find s).Pairwise (fun o o' => o.stop ≤ o'.start) ∧
    (∀ o ∈ d.find s,
      (∃ before after, s = before ++ o.placeholder.text ++ after ∧
        o.start = Utf8.size before ∧ o.stop = Utf8.size (before ++ o.placeholder.text)) ∧
      o.start < o.stop ∧ o.stop ≤ (Utf8.encode s).length ∧
      ((Utf8.encode s).drop o.start).take (o.stop - o.start) =
        Utf8.encode o.placeholder.text) ∧
    (d.occursIn s = true ↔ d.find s ≠ []) ∧
    (∀ o, Stands d s o → ∃ o' ∈ d.find s, o'.start ≤ o.start ∧ o.start < o'.stop) := by
  have hscan := referenceScan_find d s
  refine ⟨fun found => ⟨fun h => h.unique hscan, fun h => h ▸ hscan⟩, hscan.pairwise, ?_,
    occursIn_iff_find_ne_nil d s, fun o ho => hscan.covers ho (Nat.zero_le _)⟩
  intro o ho
  obtain ⟨-, hstands⟩ := hscan.stands o ho
  obtain ⟨before, after, htext, hstart, hstop⟩ := hstands.place
  refine ⟨⟨before, after, htext, hstart, by rw [Utf8.size_append, hstop]⟩,
    hstands.start_lt_stop, ?_, hstands.bytes⟩
  rw [hstop, ← Utf8.size_eq_length_encode, htext, Utf8.size_append, Utf8.size_append]
  omega

end Offsets

end Infill
