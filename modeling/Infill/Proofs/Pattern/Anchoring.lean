import Infill.Pattern.Search
import Infill.Proofs.Pattern.Grouping

/-!
# Patterns between anchors

A pattern is put into a group between `^` and `$`.  The reader then goes through the pattern as it does
without the group, with one more group open around all others (`Reader.within`), and the closing
parenthesis ends that group, unless a comment at the end of the pattern takes it in.
-/

namespace Infill.Pattern

variable {flags : Flags} {t u rest : Text} {r r' : Reader} {outer : Flags × Level}

namespace Reader

/-- The reader inside one more group, which is open around all others. -/
def within (r : Reader) (outer : Flags × Level) : Reader :=
  { r with around := r.around ++ [outer] }

theorem around_within_ne_nil (r : Reader) (outer : Flags × Level) : (r.within outer).around ≠ [] :=
  List.append_ne_nil_of_right_ne_nil r.around (List.cons_ne_nil outer [])

/-- A step has the same effect inside one more group, unless it closes a group that is not open. -/
theorem edit_within (r : Reader) (outer : Flags × Level) {e : Edit}
    (h : e = .closeGroup → r.around ≠ []) :
    (r.within outer).edit e = (r.edit e).map (·.within outer) := by
  cases e with
  | openGroup flags name => rfl
  | changeFlags flags => rfl
  | closeGroup =>
    obtain ⟨group, around, haround⟩ := List.exists_cons_of_ne_nil (h rfl)
    have hwithin : (r.within outer).around = group :: (around ++ [outer]) := by
      rw [within, haround]
      rfl
    rw [edit, edit, closeGroup, closeGroup, haround, hwithin]
    rfl
  | split => rfl
  | push p depth => rfl
  | repeatLast least most =>
    have hentries : (r.within outer).level.entries = r.level.entries := rfl
    rw [edit, edit, repeatLast, repeatLast, hentries]
    split <;> rfl

theorem exists_edit_of_within {e : Edit} (h : e = .closeGroup → r.around ≠ [])
    (hedit : (r.within outer).edit e = .ok r') : ∃ r₀, r.edit e = .ok r₀ ∧ r' = r₀.within outer := by
  rw [edit_within r outer h] at hedit
  cases hr : r.edit e with
  | error fault =>
    rw [hr] at hedit
    contradiction
  | ok r₀ =>
    rw [hr] at hedit
    exact ⟨r₀, rfl, (Except.ok.inj hedit).symm⟩

theorem edit_closeGroup_of_around_nil (h : r.around = []) :
    r.edit .closeGroup = .error .groupUnopened := by
  rw [edit, closeGroup, h]

theorem around_ne_nil_of_edit {e : Edit} (h : r.edit e = .ok r') (hclose : e = .closeGroup) :
    r.around ≠ [] := by
  rintro hnil
  rw [hclose, edit_closeGroup_of_around_nil hnil] at h
  contradiction

/-- Only a closing parenthesis takes a group off the stack. -/
theorem around_suffix_of_edit {e : Edit} (hclose : e ≠ .closeGroup) (h : r.edit e = .ok r') :
    r.around <:+ r'.around := by
  cases e with
  | openGroup flags name =>
    obtain ⟨⟩ := h
    exact List.suffix_cons _ _
  | changeFlags flags =>
    obtain ⟨⟩ := h
    exact List.suffix_rfl
  | closeGroup => contradiction
  | split =>
    obtain ⟨⟩ := h
    exact List.suffix_rfl
  | push p depth =>
    obtain ⟨⟩ := h
    exact List.suffix_rfl
  | repeatLast least most =>
    rw [edit, repeatLast] at h
    split at h
    · obtain ⟨⟩ := h
      exact List.suffix_rfl
    · contradiction

end Reader

section Runs

theorem error_ne_ok {α ε : Type} {fault : ε} {x : α} :
    (Except.error fault : Except ε α) ≠ .ok x := by
  intro h
  contradiction

theorem readAll_nil (fuel : Nat) (r : Reader) (h : r.flags.pass t = []) :
    readAll (fuel + 1) r t = if r.around = [] then .ok r.level.close else .error .groupUnclosed := by
  rw [readAll, h]
  cases r.around <;> rfl

theorem readAll_cons (fuel : Nat) (r : Reader) {c : Char} (h : r.flags.pass t = c :: rest) :
    readAll (fuel + 1) r t = (readEdit r.flags r.names c rest).bind fun next =>
      (r.edit next.1).bind fun r => readAll fuel r next.2 := by
  rw [readAll, h]
  simp only [readNext_eq]
  cases readEdit r.flags r.names c rest with
  | error fault => rfl
  | ok next =>
    dsimp only [Except.bind]
    cases r.edit next.1 <;> rfl

theorem readAll_step (fuel : Nat) {c : Char} {e : Edit} (h : r.flags.pass t = c :: rest)
    (hread : readEdit r.flags r.names c rest = .ok (e, u)) (hedit : r.edit e = .ok r') :
    readAll (fuel + 1) r t = readAll fuel r' u := by
  rw [readAll_cons fuel r h, hread]
  dsimp only [Except.bind]
  rw [hedit]

theorem pass_cons_of_plain (flags : Flags) {c : Char} (hblank : Text.isBlank c = false) (hc : c ≠ '#')
    (t : Text) : flags.pass (c :: t) = c :: t := by
  rw [Flags.pass]
  split
  · rw [dropBlanks, if_neg (by simp [hblank]), if_neg (by simp [hc])]
  · rfl

theorem pass_nil (flags : Flags) : flags.pass [] = [] := by
  rw [Flags.pass]
  split <;> rfl

theorem readAll_nil_ne_ok {fuel : Nat} {o : Operand} (haround : r.around ≠ []) :
    readAll fuel r [] ≠ .ok o := by
  cases fuel with
  | zero => exact error_ne_ok
  | succ fuel =>
    rw [readAll_nil fuel r (pass_nil r.flags), if_neg haround]
    exact error_ne_ok

/-- Groups that are open where the closing parenthesis has been taken stay open. -/
theorem readAll_ne_ok_of_lost {fuel : Nat} {o : Operand} (haround : r.around ≠ [])
    (hrest : rest <:+ ['$']) : readAll fuel r rest ≠ .ok o := by
  rcases List.suffix_cons_iff.mp hrest with rfl | hnil
  · cases fuel with
    | zero => exact error_ne_ok
    | succ fuel =>
      rw [readAll_cons fuel r (pass_cons_of_plain r.flags (by decide) (by decide) [])]
      exact readAll_nil_ne_ok (r := r.push (.look (dollarLook r.flags)) 0) haround
  · rw [List.suffix_nil.mp hnil]
    exact readAll_nil_ne_ok haround

/-- A brace in front of the closing parenthesis opens no counts. -/
theorem readAll_ne_ok_of_unbraced {fuel : Nat} {o : Operand} (h : Unbraced r.flags rest) :
    readAll fuel r rest ≠ .ok o := by
  obtain ⟨inner, rfl, hinner⟩ := h
  cases fuel with
  | zero => exact error_ne_ok
  | succ fuel =>
    have hcounts : readEdit r.flags r.names '{' inner = .error .repetition := by
      rw [readEdit, readCounts_of_unbraced hinner]
      rfl
    rw [readAll_cons fuel r (pass_cons_of_plain r.flags (by decide) (by decide) inner), hcounts]
    exact error_ne_ok

/-- A reader that goes another way in front of the closing parenthesis comes to nothing. -/
theorem readAll_ne_ok_of_misled {fuel : Nat} {o : Operand} {e : Edit} (haround : r.around ≠ [])
    (h : Misled r.flags e rest) (hedit : r.edit e = .ok r') : readAll fuel r' rest ≠ .ok o := by
  rcases h with ⟨hclose, hrest⟩ | ⟨⟨l, rfl⟩, hunbraced⟩
  · exact readAll_ne_ok_of_lost
      ((Reader.around_suffix_of_edit hclose hedit).ne_nil haround) hrest
  · obtain ⟨⟩ := hedit
    exact readAll_ne_ok_of_unbraced hunbraced

/-- What is read of a group with nothing but `$` behind it, given what stands before it. -/
def groupThenDollar (outer : Flags × Level) (o : Operand) : Operand :=
  ((outer.2.push (.operand { pattern := o.pattern, depth := o.depth + 1 })).push
    (.operand { pattern := .look (dollarLook outer.1), depth := 0 })).close

/-- Nothing opens a group for the closing parenthesis to end. -/
theorem readAll_closing {fuel : Nat} (hfuel : 0 < fuel) (haround : r.around = [])
    (h : r.flags.pass u = closing) : readAll fuel r u = .error .groupUnopened := by
  obtain ⟨fuel, rfl⟩ : ∃ n, fuel = n + 1 := Nat.exists_eq_add_one_of_ne_zero hfuel.ne'
  rw [readAll_cons fuel r h]
  show (r.edit .closeGroup).bind _ = _
  rw [Reader.edit_closeGroup_of_around_nil haround]
  rfl

/-- The closing parenthesis and the dollar sign end the group around the pattern. -/
theorem readAll_within_closing {fuel : Nat} (hfuel : closing.length < fuel) (haround : r.around = [])
    (h : r.flags.pass u = closing) :
    readAll fuel (r.within outer) u = .ok (groupThenDollar outer r.level.close) := by
  obtain ⟨fuel, rfl⟩ : ∃ n, fuel = n + 3 := Nat.exists_eq_add_of_le' hfuel
  let ended : Reader :=
    { r with
      flags := outer.1
      level := outer.2.push
        (.operand { pattern := r.level.close.pattern, depth := r.level.close.depth + 1 })
      around := [] }
  have hwithin : (r.within outer).around = [outer] := by
    rw [Reader.within, haround]
    rfl
  have hedit : (r.within outer).edit .closeGroup = .ok ended := by
    rw [Reader.edit, Reader.closeGroup, hwithin]
    rfl
  have hdollar : ended.flags.pass ['$'] = ['$'] :=
    pass_cons_of_plain _ (by decide) (by decide) []
  rw [readAll_step (r := r.within outer) (fuel + 2) h rfl hedit,
    readAll_step (fuel + 1) hdollar rfl rfl, readAll_nil fuel _ (pass_nil _)]
  rfl

theorem length_lt_of_readEdit {names : List Text} {c : Char} {e : Edit}
    (hpass : flags.pass t = c :: rest) (h : readEdit flags names c rest = .ok (e, u)) :
    u.length < t.length := by
  have hlength := (pass_suffix flags t).length_le
  rw [hpass] at hlength
  exact Nat.lt_of_le_of_lt (leaves_readEdit names c rest _ _ h).length_le hlength

/-- A pattern that is read to its end is read to its end inside a group as well.  Then the group ends
there, or a comment has taken in what ends it. -/
theorem readAll_within_of_ok {fuel bare grouped : Nat} {o : Operand} (outer : Flags × Level)
    (h : Joined t u) (hbare : u.length < bare) (hgrouped : u.length < grouped)
    (hok : readAll fuel r t = .ok o) :
    (readAll bare r u = .ok o ∧ readAll grouped (r.within outer) u = .error .groupUnclosed) ∨
      (readAll bare r u = .error .groupUnopened ∧
        readAll grouped (r.within outer) u = .ok (groupThenDollar outer o)) := by
  induction fuel generalizing r t u bare grouped with
  | zero => contradiction
  | succ fuel ih =>
    obtain ⟨bare, rfl⟩ : ∃ n, bare = n + 1 :=
      Nat.exists_eq_add_one_of_ne_zero (Nat.ne_zero_of_lt hbare)
    obtain ⟨grouped, rfl⟩ : ∃ n, grouped = n + 1 :=
      Nat.exists_eq_add_one_of_ne_zero (Nat.ne_zero_of_lt hgrouped)
    have hpass := h.pass r.flags
    cases hrest : r.flags.pass t with
    | nil =>
      rw [readAll_nil fuel r hrest] at hok
      split at hok
      · next haround =>
        obtain ⟨⟩ := hok
        rw [hrest] at hpass
        rcases hpass.nil with hnil | hclosing
        · left
          rw [readAll_nil bare r hnil, if_pos haround, readAll_nil grouped (r.within outer) hnil,
            if_neg (r.around_within_ne_nil outer)]
          exact ⟨rfl, rfl⟩
        · have hlength := (pass_suffix r.flags u).length_le
          rw [hclosing] at hlength
          exact Or.inr ⟨readAll_closing bare.succ_pos haround hclosing,
            readAll_within_closing (Nat.lt_of_le_of_lt hlength hgrouped) haround hclosing⟩
      · contradiction
    | cons c rest =>
      rw [readAll_cons fuel r hrest] at hok
      obtain ⟨⟨e, v⟩, hread, hok⟩ := exists_of_bind hok
      obtain ⟨r', hedit, hok⟩ := exists_of_bind hok
      rw [hrest] at hpass
      obtain ⟨rest', hrest', hj⟩ := hpass.cons
      obtain ⟨v', hread', hv⟩ := (carries_readEdit r.flags r.names c hj).ok hread
      have hwithin : (r.within outer).edit e = .ok (r'.within outer) := by
        rw [Reader.edit_within r outer (Reader.around_ne_nil_of_edit hedit), hedit]
        rfl
      have hlength := length_lt_of_readEdit hrest' hread'
      rw [readAll_step bare hrest' hread' hedit,
        readAll_step (r := r.within outer) grouped hrest' hread' hwithin]
      exact ih hv (Nat.lt_of_lt_of_le hlength (Nat.le_of_lt_succ hbare))
        (Nat.lt_of_lt_of_le hlength (Nat.le_of_lt_succ hgrouped)) hok

/-- A pattern that is refused is refused inside a group as well, unless it closes a group that is not
open. -/
theorem readAll_within_of_error {fuel fuel' : Nat} {fault : Fault} {o : Operand} (h : Joined t u)
    (hfuel : t.length < fuel) (hfuel' : u.length < fuel') (herror : readAll fuel r t = .error fault)
    (hfault : fault ≠ .groupUnopened) : readAll fuel' (r.within outer) u ≠ .ok o := by
  induction fuel generalizing r t u fuel' with
  | zero => exact absurd hfuel (Nat.not_lt_zero _)
  | succ fuel ih =>
    obtain ⟨fuel', rfl⟩ : ∃ n, fuel' = n + 1 :=
      Nat.exists_eq_add_one_of_ne_zero (Nat.ne_zero_of_lt hfuel')
    have hpass := h.pass r.flags
    cases hrest : r.flags.pass t with
    | nil =>
      rw [readAll_nil fuel r hrest] at herror
      split at herror
      · contradiction
      · next haround =>
        rw [hrest] at hpass
        rcases hpass.nil with hnil | hclosing
        · rw [readAll_nil fuel' (r.within outer) hnil, if_neg (r.around_within_ne_nil outer)]
          exact error_ne_ok
        · -- The parenthesis ends a group of the pattern, and the group around it stays open.
          rw [readAll_cons fuel' (r.within outer) hclosing]
          intro hok
          obtain ⟨⟨e, v⟩, ⟨⟩, hok⟩ := exists_of_bind hok
          obtain ⟨r', hedit, hok⟩ := exists_of_bind hok
          obtain ⟨r', -, rfl⟩ := Reader.exists_edit_of_within (fun _ => haround) hedit
          exact readAll_ne_ok_of_lost (r'.around_within_ne_nil outer) List.suffix_rfl hok
    | cons c rest =>
      rw [hrest] at hpass
      obtain ⟨rest', hrest', hj⟩ := hpass.cons
      have hcarries := carries_readEdit r.flags r.names c hj
      rw [readAll_cons fuel r hrest] at herror
      rw [readAll_cons fuel' (r.within outer) hrest']
      intro hok
      obtain ⟨⟨e, v'⟩, hread', hok⟩ := exists_of_bind hok
      obtain ⟨r', hedit', hok⟩ := exists_of_bind hok
      cases hread : readEdit r.flags r.names c rest with
      | error fault' =>
        exact readAll_ne_ok_of_misled (r.around_within_ne_nil outer) (hcarries.error hread hread')
          hedit' hok
      | ok next =>
        obtain ⟨e', v⟩ := next
        obtain ⟨v'', hread'', hv⟩ := hcarries.ok hread
        obtain ⟨⟨⟩, rfl⟩ := Prod.mk.inj (Except.ok.inj (hread'.symm.trans hread''))
        rw [hread] at herror
        by_cases hclose : e = .closeGroup ∧ r.around = []
        · obtain ⟨rfl, haround⟩ := hclose
          dsimp only [Except.bind] at herror
          rw [Reader.edit_closeGroup_of_around_nil haround] at herror
          exact hfault (Except.error.inj herror).symm
        · obtain ⟨r', hedit, rfl⟩ := Reader.exists_edit_of_within
            (fun he haround => hclose ⟨he, haround⟩) hedit'
          dsimp only [Except.bind] at herror
          rw [hedit] at herror
          exact ih hv (Nat.lt_of_lt_of_le (length_lt_of_readEdit hrest hread)
            (Nat.le_of_lt_succ hfuel)) (Nat.lt_of_lt_of_le (length_lt_of_readEdit hrest' hread')
            (Nat.le_of_lt_succ hfuel')) herror hok

end Runs

section Anchors

variable {source : Text} {o : Operand}

/-- A pattern between the anchors of a text. -/
def betweenAnchors (p : Pattern) : Pattern := .seq (.look .start) (.seq p (.look .stop))

/-- Whether a comment at the end of a pattern takes in what stands behind it.  A parenthesis that
nothing opens would make every other text invalid. -/
def EndsInComment (source : Text) : Prop := ∃ o, parse (source ++ closing) = .ok o

/-- Whether a pattern stays within the limits when a group and two anchors are put around it. -/
structure LeavesRoom [Limit] (source : Text) : Prop where
  depth : ∀ o, parse source = .ok o → o.depth + 2 ≤ depthLimit
  admitted : Limit.admits (anchored source) = true

/-- Whether there is room for a pattern by itself if there is room for it between anchors. -/
def RoomWithout [Limit] (source : Text) : Prop :=
  Limit.admits (anchored source) = true → Limit.admits source = true

/-- The group around a pattern between anchors, with what stands before it. -/
def anchor : Flags × Level := ({}, ({} : Level).push (.operand { pattern := .look .start, depth := 0 }))

theorem parse_anchored_eq (source : Text) :
    parse (anchored source) =
      readAll (source.length + 5) (({} : Reader).within anchor) (source ++ closing) := by
  have hlength : (anchored source).length + 1 = source.length + 5 + 2 := by
    simp [anchored]
  have htext : anchored source = '^' :: '(' :: '?' :: ':' :: (source ++ closing) := rfl
  rw [parse, hlength, htext]
  rfl

theorem parse_anchored_of_ok (h : parse source = .ok o) :
    (EndsInComment source ∧ parse (anchored source) = .error .groupUnclosed) ∨
      (¬EndsInComment source ∧ parse (anchored source) =
        .ok { pattern := betweenAnchors o.pattern, depth := o.depth + 2 }) := by
  have hlength : (source ++ closing).length = source.length + 2 := List.length_append
  have hruns := readAll_within_of_ok anchor (joined_append source)
    (Nat.lt_succ_self (source ++ closing).length)
    (show (source ++ closing).length < source.length + 5 by omega) h
  rw [← parse_anchored_eq] at hruns
  rcases hruns with ⟨hbare, hgrouped⟩ | ⟨hbare, hgrouped⟩
  · exact Or.inl ⟨⟨o, hbare⟩, hgrouped⟩
  · refine Or.inr ⟨?_, hgrouped⟩
    rintro ⟨o', ho'⟩
    exact error_ne_ok (hbare.symm.trans ho')

theorem parse_anchored_of_error {fault : Fault} (h : parse source = .error fault)
    (hfault : fault ≠ .groupUnopened) : ∃ fault', parse (anchored source) = .error fault' := by
  have hlength : (source ++ closing).length = source.length + 2 := List.length_append
  cases hanchored : parse (anchored source) with
  | error fault' => exact ⟨fault', rfl⟩
  | ok o =>
    rw [parse_anchored_eq] at hanchored
    exact absurd hanchored (readAll_within_of_error (joined_append source)
      (Nat.lt_succ_self source.length) (by omega) h hfault)

theorem ofText_eq_ok_iff {p : Pattern} : ofText source = .ok p ↔
    ∃ o, parse source = .ok o ∧ o.depth ≤ depthLimit ∧ o.pattern = p := by
  rw [ofText]
  cases parse source with
  | error fault => simp
  | ok o =>
    dsimp only
    split_ifs with hdepth
    · simp [Nat.not_le.mpr hdepth]
    · simp [Nat.not_lt.mp hdepth]

theorem exists_error_of_ne_ok {α ε : Type} {r : Except ε α} (h : ∀ x, r ≠ .ok x) :
    ∃ fault, r = .error fault := by
  cases r with
  | error fault => exact ⟨fault, rfl⟩
  | ok x => exact absurd rfl (h x)

section Room

variable [Limit]

theorem compile_eq_ok_iff {p : Pattern} :
    compile source = .ok p ↔ ofText source = .ok p ∧ Limit.admits source = true := by
  rw [compile]
  cases ofText source with
  | error fault => simp
  | ok q =>
    dsimp only
    split_ifs with hroom
    · simp [hroom]
    · simp [hroom]

theorem compile_anchored_eq_ok_iff {q : Pattern} (h : parse source = .ok o) :
    compile (anchored source) = .ok q ↔
      ¬EndsInComment source ∧ LeavesRoom source ∧ betweenAnchors o.pattern = q := by
  have hroom : LeavesRoom source ↔
      o.depth + 2 ≤ depthLimit ∧ Limit.admits (anchored source) = true := by
    refine ⟨fun hleaves => ⟨hleaves.depth o h, hleaves.admitted⟩, fun hleaves => ⟨?_, hleaves.2⟩⟩
    intro o' ho'
    obtain rfl := Except.ok.inj (h.symm.trans ho')
    exact hleaves.1
  rw [compile_eq_ok_iff, ofText_eq_ok_iff, hroom]
  rcases parse_anchored_of_ok h with ⟨hcomment, hanchored⟩ | ⟨hcomment, hanchored⟩
  · simp [hanchored, hcomment]
  · simp only [hanchored, hcomment, Except.ok.injEq, exists_eq_left', not_false_eq_true, true_and]
    tauto

/-- A pattern that leaves room matches between the anchors what it matches alone. -/
theorem compile_anchored_of_ok {p : Pattern} (h : ofText source = .ok p)
    (hcomment : ¬EndsInComment source) (hroom : LeavesRoom source) :
    compile (anchored source) = .ok (betweenAnchors p) := by
  obtain ⟨o, hparse, -, rfl⟩ := ofText_eq_ok_iff.mp h
  exact (compile_anchored_eq_ok_iff hparse).mpr ⟨hcomment, hroom, rfl⟩

/-- A pattern that ends in a comment or leaves no room is none between the anchors. -/
theorem compile_anchored_of_misfit {p : Pattern} (h : ofText source = .ok p)
    (hmisfit : EndsInComment source ∨ ¬LeavesRoom source) :
    ∃ fault, compile (anchored source) = .error fault := by
  obtain ⟨o, hparse, -⟩ := ofText_eq_ok_iff.mp h
  refine exists_error_of_ne_ok fun q hq => ?_
  obtain ⟨hcomment, hroom, -⟩ := (compile_anchored_eq_ok_iff hparse).mp hq
  exact hmisfit.elim hcomment (absurd hroom)

/-- A text that is no pattern is none between the anchors, unless it closes a group that it does not
open. -/
theorem compile_anchored_of_error {fault : Fault} (h : ofText source = .error fault)
    (hfault : fault ≠ .groupUnopened) : ∃ fault', compile (anchored source) = .error fault' := by
  refine exists_error_of_ne_ok fun q hq => ?_
  cases hparse : parse source with
  | error fault₀ =>
    rw [ofText, hparse] at h
    obtain ⟨⟩ := h
    obtain ⟨fault', hanchored⟩ := parse_anchored_of_error hparse hfault
    rw [compile, ofText, hanchored] at hq
    contradiction
  | ok o =>
    obtain ⟨-, hroom, -⟩ := (compile_anchored_eq_ok_iff hparse).mp hq
    have hdepth := hroom.depth o hparse
    have hsource : ofText source = .ok o.pattern :=
      ofText_eq_ok_iff.mpr ⟨o, hparse, by omega, rfl⟩
    rw [h] at hsource
    contradiction

/-- A pattern that there is no room for is none between the anchors, if it does not get room there. -/
theorem compile_anchored_of_compile_error {fault : Fault} (h : compile source = .error fault)
    (hfault : fault ≠ .groupUnopened) (hwithout : RoomWithout source) :
    ∃ fault', compile (anchored source) = .error fault' := by
  cases hsource : ofText source with
  | error fault₀ =>
    rw [compile, hsource] at h
    obtain ⟨⟩ := h
    exact compile_anchored_of_error hsource hfault
  | ok p =>
    refine compile_anchored_of_misfit hsource (Or.inr fun hroom => ?_)
    have hcompile := compile_eq_ok_iff.mpr ⟨hsource, hwithout hroom.admitted⟩
    rw [h] at hcompile
    contradiction

end Room

end Anchors

end Infill.Pattern
