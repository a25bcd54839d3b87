import Infill.Unicode.Category

/-!
# Sets and tables of characters

What belongs to a set of ranges, and where the runs of a table begin.  The ASCII digits are among the
decimal digits of all scripts (`has_decimalDigits_of_isDigit`).
-/

namespace Infill.Unicode

namespace CharSet

theorem hasCode_cons (r : Nat × Nat) (s : CharSet) (n : Nat) :
    hasCode (r :: s) n = true ↔ (r.1 ≤ n ∧ n ≤ r.2) ∨ s.hasCode n = true := by
  simp [hasCode]

theorem hasCode_insert (lo hi : Nat) (s : CharSet) (n : Nat) :
    (s.insert lo hi).hasCode n = true ↔ (lo ≤ n ∧ n ≤ hi) ∨ s.hasCode n = true := by
  induction s generalizing lo hi with
  | nil => simp [insert, hasCode]
  | cons r rest ih =>
    rw [insert, hasCode_cons]
    split
    · rw [hasCode_cons, hasCode_cons]
    · split
      · rw [hasCode_cons, ih]
        exact or_left_comm
      · -- The two ranges touch, so nothing between them is missing.
        rw [ih, ← or_assoc]
        refine or_congr_left ?_
        omega

/-- A code point belongs to a set of ranges if it is in one of them. -/
theorem hasCode_ofRanges (ranges : List (Nat × Nat)) (n : Nat) :
    (ofRanges ranges).hasCode n = true ↔ ∃ r ∈ ranges, r.1 ≤ n ∧ n ≤ r.2 := by
  induction ranges with
  | nil => simp [ofRanges, hasCode]
  | cons r ranges ih =>
    have hcons : ofRanges (r :: ranges) =
        if r.1 ≤ r.2 then (ofRanges ranges).insert r.1 r.2 else ofRanges ranges := rfl
    rw [hcons]
    simp only [List.mem_cons, exists_eq_or_imp]
    split
    · rw [hasCode_insert, ih]
    · rw [ih]
      refine (or_iff_right ?_).symm
      omega

end CharSet

section Runs

variable {width : Nat}

/-- How many code points an entry of a table stands for. -/
def entryCount (width : Nat) (entry : Text) : Nat :=
  (Text.natOfDigits? 16 (entry.drop width)).getD 0

/-- How many code points entries of a table stand for. -/
def countUpTo (width : Nat) : List Text → Nat
  | [] => 0
  | entry :: entries => entryCount width entry + countUpTo width entries

/-- Adds the run of an entry to those before it, which end in front of `next`. -/
def readRun (width : Nat) (read : Nat × List Run) (entry : Text) : Nat × List Run :=
  (read.1 + entryCount width entry,
    { name := entry.take width, first := read.1,
      last := read.1 + entryCount width entry - 1 } :: read.2)

/-- The number that comes next goes up by the counts of the entries. -/
theorem foldl_readRun_next (entries : List Text) (next : Nat) (runs : List Run) :
    (entries.foldl (readRun width) (next, runs)).1 = next + countUpTo width entries := by
  induction entries generalizing next runs with
  | nil => rfl
  | cons entry entries ih =>
    rw [List.foldl_cons, readRun, ih, countUpTo, Nat.add_assoc]

/-- No run is lost again. -/
theorem subset_foldl_readRun (entries : List Text) (next : Nat) (runs : List Run) :
    runs ⊆ (entries.foldl (readRun width) (next, runs)).2 := by
  induction entries generalizing next runs with
  | nil => exact List.Subset.refl runs
  | cons entry entries ih => exact List.Subset.trans (List.subset_cons_self _ _) (ih _ _)

/-- Every entry of a table has its run, which begins where the entries before it end. -/
theorem mem_runsOf {rows : List String} {before after : List Text} {entry : Text}
    (h : entriesOf rows = before ++ entry :: after) :
    { name := entry.take width, first := countUpTo width before,
      last := countUpTo width before + entryCount width entry - 1 } ∈ runsOf width rows := by
  show _ ∈ ((entriesOf rows).foldl (readRun width) (0, [])).2.reverse
  rw [List.mem_reverse, h, List.foldl_append, List.foldl_cons]
  refine subset_foldl_readRun after _ _ ?_
  simp only [foldl_readRun_next, Nat.zero_add, List.mem_cons_self]

end Runs

theorem exists_run_digits : ∃ run ∈ categoryRuns, run.name = "Nd".toList ∧
    run.first = '0'.toNat ∧ run.last = '9'.toNat := by
  obtain ⟨row, rest, hrows, hentry, hsum⟩ : ∃ row rest, categoryRows = row :: rest ∧
      (pieces ' ' row.toList)[12]? = some "Nda".toList ∧
        countUpTo 2 ((pieces ' ' row.toList).take 12) = '0'.toNat :=
    ⟨_, _, rfl, by decide +kernel, by decide +kernel⟩
  obtain ⟨hlength, hentry⟩ := List.getElem?_eq_some_iff.mp hentry
  have hentries : entriesOf categoryRows = (pieces ' ' row.toList).take 12 ++
      "Nda".toList :: ((pieces ' ' row.toList).drop 13 ++ entriesOf rest) := by
    have hrow := List.take_append_drop 12 (pieces ' ' row.toList)
    rw [List.drop_eq_getElem_cons hlength, hentry] at hrow
    rw [hrows, entriesOf, List.flatMap_cons, ← entriesOf, ← List.cons_append, ← List.append_assoc,
      hrow]
  have hcount : '0'.toNat + entryCount 2 "Nda".toList - 1 = '9'.toNat := by decide
  exact ⟨_, mem_runsOf hentries, rfl, hsum, by rw [hsum, hcount]⟩

/-- The ASCII digits are decimal digits. -/
theorem has_decimalDigits {c : Char} (h : Text.isDigit c) : decimalDigits.has c = true := by
  obtain ⟨run, hrun, hname, hfirst, hlast⟩ := exists_run_digits
  have hdigit : '0' ≤ c ∧ c ≤ '9' := by simpa [Text.isDigit] using h
  have hcode : run.first ≤ c.toNat ∧ c.toNat ≤ run.last := by
    rw [hfirst, hlast]
    exact hdigit
  refine (CharSet.hasCode_ofRanges _ _).mpr ⟨(run.first, run.last), ?_, hcode⟩
  refine List.mem_map.mpr ⟨run, List.mem_filter.mpr ⟨hrun, ?_⟩, rfl⟩
  rw [hname]
  decide

end Infill.Unicode
