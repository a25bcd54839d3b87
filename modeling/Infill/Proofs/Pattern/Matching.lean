import Infill.Pattern.Search
import Mathlib.Data.Nat.Bitwise
import Mathlib.Tactic.ByContra

/-!
# What a pattern matches

The meaning of a pattern is a relation between the positions of a text: where a match begins and where
it ends.  The search with sets of positions finds exactly these matches (`testBit_ends`), however often
it follows a repetition, because a match that gets anywhere moves on.
-/

namespace Infill

namespace Pattern

/-- Whether the given number of moves, one after the other, leads from one position to another. -/
def Moves (move : Nat → Nat → Prop) : Nat → Nat → Nat → Prop
  | 0, i, j => i = j
  | n + 1, i, k => ∃ j, move i j ∧ Moves move n j k

/-- The character in front of a position. -/
def charBefore (t : Text) : Nat → Option Char
  | 0 => none
  | i + 1 => t[i]?

/-- Whether a pattern matches the part of a text that begins and ends at the given positions.  A
repetition matches `least` times and then again, up to `most` times in all. -/
def Matches (t : Text) : Pattern → Nat → Nat → Prop
  | .empty, i, j => i = j ∧ i ≤ t.length
  | .set s, i, j => j = i + 1 ∧ ∃ c, t[i]? = some c ∧ s.has c = true
  | .look l, i, j => i = j ∧ i ≤ t.length ∧ l.holds (charBefore t i) t[i]? = true
  | .seq a b, i, k => ∃ j, Matches t a i j ∧ Matches t b j k
  | .alt a b, i, j => Matches t a i j ∨ Matches t b i j
  | .repeat least most body, i, j =>
    ∃ more, (∀ m ∈ most, more ≤ m - least) ∧ Moves (Matches t body) (least + more) i j

/-- Whether a pattern matches a text from its first to its last character. -/
def MatchesWhole (p : Pattern) (t : Text) : Prop := Matches t p 0 t.length

section Moves

variable {move : Nat → Nat → Prop} {n m i j k : Nat}

theorem moves_add : Moves move (n + m) i k ↔ ∃ j, Moves move n i j ∧ Moves move m j k := by
  induction n generalizing i with
  | zero => simp [Moves]
  | succ n ih =>
    rw [Nat.succ_add]
    simp only [Moves, ih]
    constructor
    · rintro ⟨j, hfirst, l, hn, hm⟩
      exact ⟨l, ⟨j, hfirst, hn⟩, hm⟩
    · rintro ⟨l, ⟨j, hfirst, hn⟩, hm⟩
      exact ⟨j, hfirst, l, hn, hm⟩

/-- If moves only lead on, no more of them are needed than there are positions between. -/
theorem exists_moves_le (hon : ∀ i j, move i j → i ≤ j) (h : Moves move n i j) :
    i ≤ j ∧ ∃ m, m ≤ n ∧ m ≤ j - i ∧ Moves move m i j := by
  induction n generalizing i with
  | zero =>
    obtain rfl : i = j := h
    exact ⟨le_rfl, 0, le_rfl, Nat.zero_le _, rfl⟩
  | succ n ih =>
    obtain ⟨l, hfirst, hrest⟩ := h
    obtain ⟨hle, m, hmn, hmj, hmoves⟩ := ih hrest
    have hil := hon i l hfirst
    refine ⟨hil.trans hle, ?_⟩
    rcases Nat.eq_or_lt_of_le hil with rfl | hlt
    · exact ⟨m, by omega, hmj, hmoves⟩
    · exact ⟨m + 1, by omega, by omega, l, hfirst, hmoves⟩

end Moves

section Bounds

variable {t : Text} {p : Pattern} {i j k length : Nat}

/-- Whether one position lies behind another, and within the text unless they are the same. -/
def Onward (length i j : Nat) : Prop := i ≤ j ∧ (i < j → j ≤ length)

theorem Onward.refl (length i : Nat) : Onward length i i :=
  ⟨le_rfl, fun hlt => absurd hlt (Nat.lt_irrefl i)⟩

theorem Onward.trans (hij : Onward length i j) (hjk : Onward length j k) : Onward length i k := by
  refine ⟨hij.1.trans hjk.1, fun hlt => ?_⟩
  rcases Nat.eq_or_lt_of_le hjk.1 with rfl | hlt'
  · exact hij.2 hlt
  · exact hjk.2 hlt'

theorem moves_onward {move : Nat → Nat → Prop} {n : Nat}
    (hmove : ∀ i j, move i j → Onward length i j) (h : Moves move n i j) : Onward length i j := by
  induction n generalizing i with
  | zero =>
    obtain rfl : i = j := h
    exact .refl length i
  | succ n ih =>
    obtain ⟨l, hfirst, hrest⟩ := h
    exact (hmove i l hfirst).trans (ih hrest)

/-- A match ends no earlier than it begins, and within the text if it gets anywhere. -/
theorem Matches.onward (h : Matches t p i j) : Onward t.length i j := by
  induction p generalizing i j with
  | empty =>
    obtain ⟨rfl, -⟩ := h
    exact .refl t.length i
  | set s =>
    obtain ⟨rfl, c, hc, -⟩ := h
    obtain ⟨hlt, -⟩ := List.getElem?_eq_some_iff.mp hc
    exact ⟨Nat.le_succ i, fun _ => hlt⟩
  | look l =>
    obtain ⟨rfl, -⟩ := h
    exact .refl t.length i
  | seq a b iha ihb =>
    obtain ⟨l, ha, hb⟩ := h
    exact (iha ha).trans (ihb hb)
  | alt a b iha ihb => exact h.elim iha ihb
  | «repeat» least most body ih =>
    obtain ⟨more, -, hmoves⟩ := h
    exact moves_onward (fun i j => ih) hmoves

end Bounds

end Pattern

namespace Walk

open Pattern (Moves Matches moves_add)

theorem testBit_marks (answers : List Bool) (i : Nat) :
    (marks answers).testBit i = true ↔ answers[i]? = some true := by
  induction answers generalizing i with
  | nil => simp [marks]
  | cons b answers ih =>
    have hmarks : marks (b :: answers) = 2 * marks answers + b.toNat := rfl
    rw [hmarks]
    cases i with
    | zero => cases b <;> simp [Nat.testBit_zero, Nat.add_mod]
    | succ i =>
      have hhalf : (2 * marks answers + b.toNat) / 2 = marks answers := by
        have := Bool.toNat_lt b
        omega
      rw [Nat.testBit_succ, hhalf, ih, List.getElem?_cons_succ]

theorem testBit_allPositions (n i : Nat) : (Nat.pow 2 n - 1).testBit i = true ↔ i < n := by
  have hbits := Nat.testBit_two_pow_sub_one n i
  show (2 ^ n - 1).testBit i = true ↔ i < n
  rw [hbits, decide_eq_true_iff]

section Repetition

variable {f : Nat → Nat} {move : Nat → Nat → Prop}

/-- If one application of a function makes one move from all positions, many make as many moves. -/
theorem testBit_times (hf : ∀ s j, (f s).testBit j = true ↔ ∃ i, s.testBit i = true ∧ move i j)
    (n s j : Nat) :
    (times f n s).testBit j = true ↔ ∃ i, s.testBit i = true ∧ Moves move n i j := by
  induction n generalizing s with
  | zero => simp [times, Moves]
  | succ n ih =>
    simp only [times, ih, hf, Moves]
    constructor
    · rintro ⟨l, ⟨i, hi, hfirst⟩, hrest⟩
      exact ⟨i, hi, l, hfirst, hrest⟩
    · rintro ⟨i, hi, l, hfirst, hrest⟩
      exact ⟨l, ⟨i, hi, hfirst⟩, hrest⟩

/-- A closure reaches what some number of moves, up to the number of rounds, reaches.  Positions that
are not fresh have been followed already: their moves lead to positions that have been seen. -/
theorem testBit_closure (hf : ∀ s j, (f s).testBit j = true ↔ ∃ i, s.testBit i = true ∧ move i j)
    (n : Nat) {fresh seen : Nat}
    (hseen : ∀ i, fresh.testBit i = true → seen.testBit i = true)
    (hdone : ∀ i j, seen.testBit i = true → fresh.testBit i = false → move i j →
      seen.testBit j = true) (j : Nat) :
    (closure f n fresh seen).testBit j = true ↔
      ∃ i, seen.testBit i = true ∧ ∃ m, m ≤ n ∧ Moves move m i j := by
  induction n generalizing fresh seen with
  | zero => simp [closure, Moves]
  | succ n ih =>
    rw [closure]
    split
    · next hnone =>
      subst hnone
      have hclosed : ∀ m i, seen.testBit i = true → Moves move m i j → seen.testBit j = true := by
        intro m
        induction m with
        | zero =>
          rintro i hi rfl
          exact hi
        | succ m ihm =>
          rintro i hi ⟨l, hfirst, hrest⟩
          exact ihm l (hdone i l hi (Nat.zero_testBit i) hfirst) hrest
      constructor
      · intro hj
        exact ⟨j, hj, 0, Nat.zero_le _, rfl⟩
      · rintro ⟨i, hi, m, -, hmoves⟩
        exact hclosed m i hi hmoves
    · have hnew : ∀ i, (f fresh ^^^ (f fresh &&& seen)).testBit i = true ↔
          (f fresh).testBit i = true ∧ seen.testBit i = false := by
        intro i
        rw [Nat.testBit_xor, Nat.testBit_and]
        cases (f fresh).testBit i <;> cases seen.testBit i <;> simp
      have hgrown : ∀ i, (seen ||| (f fresh ^^^ (f fresh &&& seen))).testBit i = true ↔
          seen.testBit i = true ∨ (f fresh).testBit i = true := by
        intro i
        rw [Nat.testBit_or, Bool.or_eq_true, hnew]
        cases seen.testBit i <;> simp
      have hstep : ∀ i l, seen.testBit i = true → move i l →
          seen.testBit l = true ∨ (f fresh).testBit l = true := by
        intro i l hi hmove
        cases hfresh : fresh.testBit i with
        | true => exact Or.inr ((hf fresh l).mpr ⟨i, hfresh, hmove⟩)
        | false => exact Or.inl (hdone i l hi hfresh hmove)
      rw [ih (fun i hi => (hgrown i).mpr (Or.inr ((hnew i).mp hi).1)) ?done]
      case done =>
        intro i l hi hold hmove
        refine (hgrown l).mpr ?_
        have hi : seen.testBit i = true := by
          rcases (hgrown i).mp hi with hi | hi
          · exact hi
          · by_contra hnot
            have := (hnew i).mpr ⟨hi, by simpa using hnot⟩
            rw [hold] at this
            contradiction
        exact hstep i l hi hmove
      constructor
      · rintro ⟨i, hi, m, hm, hmoves⟩
        rcases (hgrown i).mp hi with hi | hi
        · exact ⟨i, hi, m, by omega, hmoves⟩
        · obtain ⟨l, hl, hmove⟩ := (hf fresh i).mp hi
          exact ⟨l, hseen l hl, m + 1, by omega, i, hmove, hmoves⟩
      · rintro ⟨i, hi, m, hm, hmoves⟩
        cases m with
        | zero => exact ⟨i, (hgrown i).mpr (Or.inl hi), 0, Nat.zero_le _, hmoves⟩
        | succ m =>
          obtain ⟨l, hmove, hrest⟩ := hmoves
          exact ⟨l, (hgrown l).mpr (hstep i l hi hmove), m, by omega, hrest⟩

end Repetition

end Walk

namespace Pattern

variable {t : Text} {p : Pattern} {i j : Nat}

/-- A question about neighbours is asked at every position up to the length. -/
theorem getElem?_atPositions (holds : Option Char → Option Char → Bool) (t : Text) (i : Nat) :
    (atPositions holds t)[i]? = some true ↔
      i ≤ t.length ∧ holds (charBefore t i) t[i]? = true := by
  have hbefore : ∀ i, i ≤ t.length → (none :: t.map some)[i]? = some (charBefore t i) := by
    intro i hi
    cases i with
    | zero => rfl
    | succ i =>
      obtain ⟨c, hc⟩ : ∃ c, t[i]? = some c := ⟨_, List.getElem?_eq_getElem hi⟩
      simp [charBefore, hc]
  have hafter : ∀ i, i ≤ t.length → (t.map some ++ [none])[i]? = some t[i]? := by
    intro i hi
    rcases Nat.eq_or_lt_of_le hi with rfl | hlt
    · simp
    · simp [List.getElem?_append, hlt]
  rw [atPositions, List.getElem?_zipWith]
  by_cases hi : i ≤ t.length
  · rw [hbefore i hi, hafter i hi]
    simp [hi]
  · have hout : (none :: t.map some)[i]? = none := by
      simp only [List.getElem?_eq_none_iff, List.length_cons, List.length_map]
      omega
    rw [hout]
    simp [hi]

/-- The search ends where the matches end that begin at one of the given positions. -/
theorem testBit_ends (t : Text) (p : Pattern) (positions j : Nat) :
    ((p.walk t).ends t.length positions).testBit j = true ↔
      ∃ i, positions.testBit i = true ∧ Matches t p i j := by
  induction p generalizing positions j with
  | empty =>
    rw [walk, Walk.ends, Nat.testBit_and, Bool.and_eq_true, Walk.testBit_allPositions]
    constructor
    · rintro ⟨hj, hlt⟩
      exact ⟨j, hj, rfl, Nat.le_of_lt_succ hlt⟩
    · rintro ⟨i, hi, rfl, hle⟩
      exact ⟨hi, Nat.lt_succ_of_le hle⟩
  | set s =>
    rw [walk, Walk.ends, Nat.testBit_shiftLeft, Nat.testBit_and, Bool.and_eq_true,
      Bool.and_eq_true, decide_eq_true_iff, Walk.testBit_marks, List.getElem?_map,
      Option.map_eq_some_iff]
    constructor
    · rintro ⟨hpos, hi, hmember⟩
      exact ⟨j - 1, hi, by omega, hmember⟩
    · rintro ⟨i, hi, rfl, hmember⟩
      exact ⟨Nat.succ_pos i, hi, hmember⟩
  | look l =>
    rw [walk, Walk.ends, Nat.testBit_and, Bool.and_eq_true, Walk.testBit_marks,
      getElem?_atPositions]
    constructor
    · rintro ⟨hj, hle, hholds⟩
      exact ⟨j, hj, rfl, hle, hholds⟩
    · rintro ⟨i, hi, rfl, hle, hholds⟩
      exact ⟨hi, hle, hholds⟩
  | seq a b iha ihb =>
    simp only [walk, Walk.ends, iha, ihb, Matches]
    constructor
    · rintro ⟨l, ⟨i, hi, ha⟩, hb⟩
      exact ⟨i, hi, l, ha, hb⟩
    · rintro ⟨i, hi, l, ha, hb⟩
      exact ⟨l, ⟨i, hi, ha⟩, hb⟩
  | alt a b iha ihb =>
    simp only [walk, Walk.ends, Nat.testBit_or, Bool.or_eq_true, iha, ihb, Matches]
    constructor
    · rintro (⟨i, hi, ha⟩ | ⟨i, hi, hb⟩)
      · exact ⟨i, hi, Or.inl ha⟩
      · exact ⟨i, hi, Or.inr hb⟩
    · rintro ⟨i, hi, ha | hb⟩
      · exact Or.inl ⟨i, hi, ha⟩
      · exact Or.inr ⟨i, hi, hb⟩
  | «repeat» least most body ih =>
    have hclosure := fun n (s : Nat) j =>
      Walk.testBit_closure ih n (show ∀ i, s.testBit i = true → s.testBit i = true from fun _ => id)
        (fun i l hi hold _ => absurd hi (by simp [hold])) j
    simp only [walk, Walk.ends, hclosure, Walk.testBit_times ih, Matches, moves_add]
    -- The rounds are bounded by the number of positions, and no match needs more.
    have hfew : ∀ {n l}, Moves (Matches t body) n l j →
        ∃ m, m ≤ n ∧ m ≤ t.length + 1 ∧ Moves (Matches t body) m l j := by
      intro n l hmoves
      obtain ⟨hle, m, hmn, hmj, hmoves'⟩ := exists_moves_le (fun i j h => (Matches.onward h).1) hmoves
      have hbound := (moves_onward (fun i j h => Matches.onward h) hmoves).2
      refine ⟨m, hmn, ?_, hmoves'⟩
      by_cases hlt : l < j
      · have := hbound hlt
        omega
      · omega
    constructor
    · rintro ⟨l, ⟨i, hi, hbegun⟩, m, hm, hmoves⟩
      refine ⟨i, hi, m, ?_, l, hbegun, hmoves⟩
      rintro most' rfl
      exact hm.trans (Nat.min_le_left _ _)
    · rintro ⟨i, hi, more, hmore, l, hbegun, hmoves⟩
      obtain ⟨m, hmle, hmfew, hmoves'⟩ := hfew hmoves
      refine ⟨l, ⟨i, hi, hbegun⟩, m, ?_, hmoves'⟩
      cases most with
      | none => exact hmfew
      | some most => exact Nat.le_min.mpr ⟨hmle.trans (hmore most rfl), hmfew⟩

/-- A pattern occurs in a text if it matches some part of it. -/
theorem occursIn_iff (p : Pattern) (t : Text) :
    p.occursIn t = true ↔ ∃ i j, i ≤ t.length ∧ Matches t p i j := by
  have hany : ∀ n : Nat, n ≠ 0 ↔ ∃ j, n.testBit j = true := by
    intro n
    constructor
    · exact Nat.exists_testBit_of_ne_zero
    · rintro ⟨j, hj⟩ rfl
      simp at hj
  rw [occursIn, bne_iff_ne, hany]
  simp only [testBit_ends, Walk.testBit_allPositions, Nat.lt_succ_iff]
  exact exists_comm

theorem matches_start_iff : Matches t (.look .start) i j ↔ i = j ∧ i = 0 := by
  cases i with
  | zero => simp [Matches, Look.holds, charBefore]
  | succ i =>
    constructor
    · rintro ⟨rfl, hle, hholds⟩
      have hc : t[i]? = some t[i] := List.getElem?_eq_getElem hle
      simp [Look.holds, charBefore, hc] at hholds
    · rintro ⟨-, hzero⟩
      exact absurd hzero (Nat.succ_ne_zero i)

theorem matches_stop_iff : Matches t (.look .stop) i j ↔ i = j ∧ i = t.length := by
  constructor
  · rintro ⟨rfl, hle, hholds⟩
    have hnone : t[i]? = none := Option.isNone_iff_eq_none.mp hholds
    exact ⟨rfl, Nat.le_antisymm hle (List.getElem?_eq_none_iff.mp hnone)⟩
  · rintro ⟨rfl, rfl⟩
    exact ⟨rfl, le_rfl, by simp [Look.holds]⟩

/-- Between the two ends of a text there is nothing but the whole text to match. -/
theorem occursIn_anchored_iff (p : Pattern) (t : Text) :
    (Pattern.seq (.look .start) (.seq p (.look .stop))).occursIn t = true ↔ MatchesWhole p t := by
  rw [occursIn_iff, MatchesWhole]
  constructor
  · rintro ⟨i, k, -, j, hstart, l, hmatch, hstop⟩
    obtain ⟨rfl, rfl⟩ := matches_start_iff.mp hstart
    obtain ⟨-, rfl⟩ := matches_stop_iff.mp hstop
    exact hmatch
  · intro hmatch
    exact ⟨0, t.length, Nat.zero_le _, 0, matches_start_iff.mpr ⟨rfl, rfl⟩, t.length, hmatch,
      matches_stop_iff.mpr ⟨rfl, rfl⟩⟩

end Pattern

end Infill
