import Infill.Shape
import Infill.Proofs.Text

/-!
# Reading shapes without going back

Where what follows a repetition cannot start with a character that the repetition accepts, only one
way of reading has a chance, and `Shape.read` takes it: `readMany_eq` for white space and modifiers,
`read_padded_name` for a name with white space around it.  The last one is where the preference of
`few` counts: the name ends in front of the white space and not behind it.
-/

namespace Infill

namespace Text

@[simp] theorem upTo_append (t rest : Text) : Text.upTo (t ++ rest) rest = t := by
  simp [upTo]

end Text

namespace Reading

theorem group_keep (n m : Nat) (t : Text) (r : Reading) :
    (r.keep n t).group m = if m = n then t else r.group m := by
  by_cases h : m = n
  · simp [group, group?, keep, h]
  · simp [group, group?, keep, List.lookup_cons, beq_false_of_ne h, h]

@[simp] theorem group_of_no_groups (rest : Text) (n : Nat) :
    ({ rest } : Reading).group n = [] := rfl

end Reading

namespace Shape

variable {next : Text → Option Reading}

@[simp] theorem read_nothing : nothing.read next = next := by
  funext t; simp [read]

@[simp] theorem read_seq (a b : Shape) : (seq a b).read next = a.read (b.read next) := by
  funext t; simp [read]

@[simp] theorem read_inOrder_nil : (inOrder []).read next = next := read_nothing

@[simp] theorem read_inOrder_cons (s : Shape) (shapes : List Shape) :
    (inOrder (s :: shapes)).read next = s.read ((inOrder shapes).read next) :=
  read_seq s (inOrder shapes)

@[simp] theorem read_optional (s : Shape) (t : Text) :
    (Shape.optional s).read next t = (s.read next t).or (next t) := by
  simp [read]

theorem read_group (n : Nat) (s : Shape) (t : Text) :
    (Shape.group n s).read next t =
      s.read (fun rest => (next rest).map (Reading.keep n (t.upTo rest))) t := by
  simp [read]

@[simp] theorem read_word (w t : Text) :
    (word w).read next t = (afterLead? w t).bind next := by
  induction w generalizing t with
  | nil => simp [word, afterLead?]
  | cons c w ih =>
    cases t with
    | nil => simp [word, read, afterLead?]
    | cons b t =>
      have hrest : (inOrder (w.map fun c => one (· == c))).read next t =
          (afterLead? w t).bind next := ih t
      by_cases hb : c = b
      · simp [word, read, afterLead?, hb, hrest]
      · simp [word, read, afterLead?, hb, Ne.symm hb]

/-- Of the ways to stop in a repetition only the last one counts, if nothing can be read on from an
accepted character. -/
theorem readMany_eq {accepts : Char → Bool}
    (h : ∀ c rest, accepts c → next (c :: rest) = none) (t : Text) :
    readMany accepts next t = next (t.dropWhile accepts) := by
  induction t with
  | nil => rfl
  | cons c rest ih =>
    by_cases hc : accepts c
    · simp [readMany, hc, ih, h c rest hc]
    · simp [readMany, hc]

theorem read_blanks (h : ∀ c rest, Text.isBlank c → next (c :: rest) = none) (t : Text) :
    blanks.read next t = next (Text.trimStart t) := by
  simp only [blanks, read]
  exact readMany_eq h t

section Name

variable {stops : Text}

@[simp] theorem outside_iff {c : Char} : outside stops c = true ↔ c ∉ stops := by
  simp [outside]

theorem outside_of_no_stop {part : Text} (h : ∀ stop ∈ stops, stop ∉ part) :
    ∀ c ∈ part, outside stops c :=
  fun c hc => outside_iff.mpr fun hstop => h c hstop hc

/-- A text that starts with an accepted character that is not white space starts, without the white
space in front, with an accepted character. -/
theorem trimStart_of_accepted {t : Text}
    (h : ∃ c ∈ t.takeWhile (outside stops), Text.isBlank c = false) :
    ∃ b rest, Text.trimStart t = b :: rest ∧ b ∉ stops := by
  induction t with
  | nil => simp at h
  | cons c t ih =>
    by_cases hstop : c ∈ stops
    · simp [hstop] at h
    · by_cases hblank : Text.isBlank c
      · rw [List.takeWhile_cons_of_pos (outside_iff.mpr hstop)] at h
        obtain ⟨d, hd, hnot⟩ := h
        rcases List.mem_cons.mp hd with rfl | hd
        · simp [hblank] at hnot
        · rw [Text.trimStart, List.dropWhile_cons_of_pos hblank]
          exact ih ⟨d, hd, hnot⟩
      · exact ⟨c, t, Text.trimStart_cons_of_not_blank (by simpa using hblank) t, hstop⟩

/-- White space in front of the first stop leads to that stop. -/
theorem trimStart_of_blank_to_stop (hblank : ∀ c ∈ stops, Text.isBlank c = false) {t : Text}
    (h : ∀ c ∈ t.takeWhile (outside stops), Text.isBlank c) :
    Text.trimStart t = t.dropWhile (outside stops) := by
  have hcut : t = t.takeWhile (outside stops) ++ t.dropWhile (outside stops) :=
    List.takeWhile_append_dropWhile.symm
  conv_lhs => rw [hcut]
  rw [Text.trimStart_append_of_blank h]
  obtain hnil | ⟨b, rest, hb, hmem⟩ := dropWhile_eq_nil_or_cons (outside stops) t
  · rw [hnil]; rfl
  · rw [hb]
    exact Text.trimStart_cons_of_not_blank (hblank b (by simpa [outside] using hmem)) rest

/-- A lazy repetition with white space behind it stops in front of the white space that leads to the
first stop.  To stop earlier fails, and to stop later would read on from the same place. -/
theorem readFew_eq (hblank : ∀ c ∈ stops, Text.isBlank c = false)
    (hstop : ∀ c rest, c ∉ stops → next (c :: rest) = none) (n : Nat) (seen t : Text) :
    readFew (outside stops)
        (fun rest => (next (Text.trimStart rest)).map
          (Reading.keep n (Text.upTo (seen ++ t) rest))) t =
      (next (t.dropWhile (outside stops))).map
        (Reading.keep n (seen ++ Text.trimEnd (t.takeWhile (outside stops)))) := by
  induction t generalizing seen with
  | nil => simp [readFew, Text.trimStart, Text.trimEnd, dropEndWhile, Text.upTo]
  | cons c t ih =>
    by_cases hc : c ∈ stops
    · have htrim := Text.trimStart_cons_of_not_blank (hblank c hc) t
      simp [readFew, hc, htrim, Text.trimEnd, dropEndWhile]
    · have hgo : outside stops c = true := outside_iff.mpr hc
      have hseen : seen ++ c :: t = (seen ++ [c]) ++ t := by simp
      rw [readFew, if_pos hgo, Text.upTo_append, List.dropWhile_cons_of_pos hgo,
        List.takeWhile_cons_of_pos hgo, hseen, ih (seen ++ [c])]
      -- With nothing but white space up to the stop the name can end here; otherwise it cannot,
      -- because behind the white space stands a character that is no stop.
      by_cases hall : ∀ b ∈ (c :: t).takeWhile (outside stops), Text.isBlank b
      · rw [trimStart_of_blank_to_stop hblank hall, List.dropWhile_cons_of_pos hgo]
        rw [List.takeWhile_cons_of_pos hgo] at hall
        rw [Text.trimEnd_eq_nil_iff.mpr hall]
        cases next (t.dropWhile (outside stops)) <;> simp
      · obtain ⟨b, rest, hb, hmem⟩ : ∃ b rest, Text.trimStart (c :: t) = b :: rest ∧ b ∉ stops :=
          trimStart_of_accepted (by simpa using hall)
        rw [List.takeWhile_cons_of_pos hgo] at hall
        rw [hb, hstop b rest hmem, Text.trimEnd_cons, if_neg (by simpa using hall)]
        simp

theorem read_name (hblank : ∀ c ∈ stops, Text.isBlank c = false)
    (hstop : ∀ c rest, c ∉ stops → next (c :: rest) = none) (n : Nat) (c : Char) (t : Text) :
    (name n stops).read (fun rest => next (Text.trimStart rest)) (c :: t) =
      if c ∈ stops ∨ Text.isBlank c then none
      else (next ((c :: t).dropWhile (outside stops))).map
        (Reading.keep n (Text.trimEnd ((c :: t).takeWhile (outside stops)))) := by
  simp only [name, read, read_inOrder_cons]
  by_cases hc : c ∈ stops ∨ Text.isBlank c
  · rw [if_pos hc, if_neg (by rcases hc with h | h <;> simp [h])]
  · obtain ⟨hmem, hnot⟩ := not_or.mp hc
    have hgo : outside stops c = true := outside_iff.mpr hmem
    rw [if_neg hc, if_pos (by simp [hmem, hnot]), List.dropWhile_cons_of_pos hgo,
      List.takeWhile_cons_of_pos hgo, Text.trimEnd_cons_of_not_blank (by simpa using hnot)]
    exact readFew_eq hblank hstop n [c] t

/-- Reads a name with white space around it that reaches to the first stop. -/
theorem read_padded_name (hblank : ∀ c ∈ stops, Text.isBlank c = false)
    (hstop : ∀ c rest, c ∉ stops → next (c :: rest) = none) (n : Nat) (t : Text) :
    blanks.read ((name n stops).read (blanks.read next)) t =
      if Text.trim (t.takeWhile (outside stops)) = [] then none
      else (next (t.dropWhile (outside stops))).map
        (Reading.keep n (Text.trim (t.takeWhile (outside stops)))) := by
  have hout : ∀ c, Text.isBlank c → c ∉ stops := by
    intro c hc hmem
    simp [hblank c hmem] at hc
  have hwide : ∀ c, Text.isBlank c → outside stops c := fun c hc => outside_iff.mpr (hout c hc)
  have hafter : blanks.read next = fun rest => next (Text.trimStart rest) :=
    funext (read_blanks fun c rest hc => hstop c rest (hout c hc))
  have hname : ∀ c rest, Text.isBlank c →
      (name n stops).read (fun rest => next (Text.trimStart rest)) (c :: rest) = none := by
    intro c rest hc
    rw [read_name hblank hstop, if_pos (Or.inr hc)]
  have htake : Text.trimStart (t.takeWhile (outside stops)) =
      (Text.trimStart t).takeWhile (outside stops) := (takeWhile_dropWhile_of_imp hwide t).symm
  rw [hafter, read_blanks hname, ← dropWhile_dropWhile_of_imp hwide t, Text.trim, htake,
    Text.trimStart]
  obtain hnil | ⟨c, rest, hcons, hc⟩ := dropWhile_eq_nil_or_cons Text.isBlank t
  · simp [hnil, name, read, Text.trimEnd, dropEndWhile]
  · rw [hcons, read_name hblank hstop]
    by_cases hmem : c ∈ stops
    · simp [hmem, Text.trimEnd, dropEndWhile]
    · have hgo : outside stops c = true := outside_iff.mpr hmem
      simp [List.takeWhile_cons_of_pos hgo, Text.trimEnd_cons_of_not_blank hc, hmem, hc]

end Name

end Shape

end Infill
