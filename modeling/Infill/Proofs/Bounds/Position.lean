import Infill.Bounds.Reading
import Infill.Proofs.Placeholder.Scan

/-!
# Positions in texts

A text can be cut at the bytes in front of which a part of it ends, and at no others
(`Utf8.part_eq_ok_iff`); the byte at which a character is found is one of them (`Utf8.find?_of_cutAt?`).
A group that no option of a shape can leave out has been read wherever the shape has
(`Shape.isSome_group?_of_match`).
-/

namespace Infill

namespace Utf8

variable {t : Text} {start stop : Nat}

theorem size_cons (c : Char) (t : Text) : size (c :: t) = (encodeChar c).length + size t := by
  rw [size_eq_length_encode, encode_cons, List.length_append, ← size_eq_length_encode]

theorem splitAt?_zero (t : Text) : splitAt? 0 t = some ([], t) := by
  cases t <;> rfl

theorem splitAt?_append (a b : Text) : splitAt? (size a) (a ++ b) = some (a, b) := by
  induction a with
  | nil => exact splitAt?_zero b
  | cons c a ih =>
    obtain ⟨n, hn⟩ : ∃ n, size (c :: a) = n + 1 :=
      Nat.exists_eq_add_one.mpr (size_pos (List.cons_ne_nil c a))
    have hrest : n + 1 - (encodeChar c).length = size a := by
      rw [← hn, size_cons, Nat.add_sub_cancel_left]
    have hfits : (encodeChar c).length ≤ n + 1 := by
      rw [← hn, size_cons]
      exact Nat.le_add_right _ _
    rw [List.cons_append, hn, splitAt?, if_pos hfits, hrest, ih, Option.map_some]

/-- A text can be cut where a part of it ends. -/
theorem splitAt?_eq_some_iff {n : Nat} {a b : Text} :
    splitAt? n t = some (a, b) ↔ t = a ++ b ∧ n = size a := by
  constructor
  · intro h
    induction t generalizing n a with
    | nil =>
      cases n with
      | zero =>
        obtain ⟨rfl, rfl⟩ := Prod.mk.inj (Option.some.inj h)
        exact ⟨rfl, rfl⟩
      | succ n => contradiction
    | cons c t ih =>
      cases n with
      | zero =>
        obtain ⟨rfl, rfl⟩ := Prod.mk.inj (Option.some.inj h)
        exact ⟨rfl, rfl⟩
      | succ n =>
        rw [splitAt?] at h
        split at h
        · next hfits =>
          obtain ⟨parts, hparts, heq⟩ := Option.map_eq_some_iff.mp h
          obtain ⟨rfl, rfl⟩ := Prod.mk.inj heq
          obtain ⟨htext, hn⟩ := ih hparts
          refine ⟨congrArg (c :: ·) htext, ?_⟩
          rw [size_cons, ← hn]
          omega
        · contradiction
  · rintro ⟨rfl, rfl⟩
    exact splitAt?_append a b

theorem part_append (before part after : Text) :
    Utf8.part (before ++ part ++ after) (size before) (size (before ++ part)) = .ok part := by
  simp only [Utf8.part, splitAt?_append, Option.bind_some]

/-- A range of bytes is a part of a text if both of its ends are where a character starts or the text
ends. -/
theorem part_eq_ok_iff {p : Text} : part t start stop = .ok p ↔
    ∃ before after, t = before ++ p ++ after ∧ start = size before ∧ stop = size (before ++ p) := by
  constructor
  · intro h
    rw [part] at h
    split at h
    · next parts hparts =>
      obtain ⟨⟨front, after⟩, hstop, hstart⟩ := Option.bind_eq_some_iff.mp hparts
      obtain ⟨rfl, rfl⟩ := splitAt?_eq_some_iff.mp hstop
      obtain ⟨hfront, rfl⟩ := splitAt?_eq_some_iff.mp hstart
      obtain rfl := Except.ok.inj h
      exact ⟨parts.1, after, by rw [← hfront], rfl, by rw [← hfront]⟩
    · contradiction
  · rintro ⟨before, after, rfl, rfl, rfl⟩
    exact part_append before p after

/-- The beginning of a text, up to a byte. -/
theorem part_beginning (before after : Text) :
    part (before ++ after) 0 (size before) = .ok before :=
  part_eq_ok_iff.mpr ⟨[], after, rfl, rfl, rfl⟩

/-- The end of a text, from a byte on. -/
theorem part_end (before after : Text) :
    part (before ++ after) (size before) (size (before ++ after)) = .ok after :=
  part_eq_ok_iff.mpr ⟨before, [], (List.append_nil _).symm, rfl, rfl⟩

/-- A character of the text starts at the byte, or the text ends there. -/
def IsBoundary (t : Text) (n : Nat) : Prop := ∃ before after, t = before ++ after ∧ n = size before

theorem IsBoundary.le_size (h : IsBoundary t stop) : stop ≤ size t := by
  obtain ⟨before, after, rfl, rfl⟩ := h
  rw [size_append]
  exact Nat.le_add_right _ _

/-- What is between two such bytes can be cut out. -/
theorem exists_part (hstart : IsBoundary t start) (hstop : IsBoundary t stop)
    (hle : start ≤ stop) : ∃ p, part t start stop = .ok p := by
  obtain ⟨before, x, rfl, rfl⟩ := hstart
  obtain ⟨before', y, htext, rfl⟩ := hstop
  obtain ⟨p, rfl, rfl⟩ := split_of_size_le htext hle
  refine ⟨p, ?_⟩
  rw [← List.append_assoc]
  exact part_append before p y

/-- No character is found where there is none to cut at. -/
theorem find?_of_cutAt?_none {accepts : Char → Bool} (h : cutAt? accepts t = none) :
    find? accepts t = none := by
  rw [cutAt?_eq_none_iff] at h
  induction t with
  | nil => rfl
  | cons c t ih =>
    obtain ⟨hc, h⟩ := List.forall_mem_cons.mp h
    rw [find?, hc, if_neg Bool.false_ne_true, ih h, Option.map_none]

/-- A character is found behind the text in front of it. -/
theorem find?_of_cutAt? {accepts : Char → Bool} {before after : Text}
    (h : cutAt? accepts t = some (before, after)) : find? accepts t = some (size before) := by
  have hpass := not_stops_of_cutAt? h
  obtain ⟨c, hc, rfl⟩ := eq_append_of_cutAt? h
  clear h
  induction before with
  | nil => rw [List.nil_append, find?, if_pos hc]; rfl
  | cons b before ih =>
    obtain ⟨hb, hpass⟩ := List.forall_mem_cons.mp hpass
    rw [List.cons_append, find?, hb, if_neg Bool.false_ne_true, ih hpass, Option.map_some, size_cons,
      Nat.add_comm]

end Utf8

namespace Reading

variable {r : Reading} {n : Nat}

/-- A group that has been read is there. -/
theorem index_eq (h : (r.group? n).isSome) : r.index n = .ok (r.group n) := by
  obtain ⟨t, ht⟩ := Option.isSome_iff_exists.mp h
  rw [index, group, ht]
  rfl

theorem group?_keep_isSome {m : Nat} {t : Text} :
    ((r.keep m t).group? n).isSome ↔ n = m ∨ (r.group? n).isSome := by
  by_cases h : n = m
  · simp [group?, keep, h]
  · simp [group?, keep, List.lookup_cons, beq_false_of_ne h, h]

end Reading

namespace Shape

/-- Whether a group is a part of the shape that no option can leave out. -/
def keeps (n : Nat) : Shape → Bool
  | .seq first second => first.keeps n || second.keeps n
  | .group number body => n == number || body.keeps n
  | _ => false

section Reads

variable {next : Text → Option Reading} {t : Text} {r : Reading} {n : Nat}

theorem exists_of_readMany {accepts : Char → Bool} (h : readMany accepts next t = some r) :
    ∃ gone rest, t = gone ++ rest ∧ next rest = some r := by
  induction t with
  | nil => exact ⟨[], [], rfl, h⟩
  | cons c t ih =>
    rw [readMany] at h
    split at h
    · rcases Option.or_eq_some_iff.mp h with h | ⟨-, h⟩
      · obtain ⟨gone, rest, rfl, hrest⟩ := ih h
        exact ⟨c :: gone, rest, rfl, hrest⟩
      · exact ⟨[], c :: t, rfl, h⟩
    · exact ⟨[], c :: t, rfl, h⟩

theorem exists_of_readFew {accepts : Char → Bool} (h : readFew accepts next t = some r) :
    ∃ gone rest, t = gone ++ rest ∧ next rest = some r := by
  induction t with
  | nil => exact ⟨[], [], rfl, h⟩
  | cons c t ih =>
    rw [readFew] at h
    rcases Option.or_eq_some_iff.mp h with h | ⟨-, h⟩
    · exact ⟨[], c :: t, rfl, h⟩
    · split at h
      · obtain ⟨gone, rest, rfl, hrest⟩ := ih h
        exact ⟨c :: gone, rest, rfl, hrest⟩
      · contradiction

/-- What has been read of a text behind a shape is read at a later place of the text.  The groups of
that reading are still there, and so are those that the shape keeps. -/
theorem exists_of_read {s : Shape} (h : s.read next t = some r) :
    ∃ gone rest r', t = gone ++ rest ∧ next rest = some r' ∧
      ∀ n, s.keeps n ∨ (r'.group? n).isSome → (r.group? n).isSome := by
  induction s generalizing next t r with
  | nothing => exact ⟨[], t, r, rfl, h, by simp [keeps]⟩
  | one accepts =>
    cases t with
    | nil => contradiction
    | cons c t =>
      rw [read] at h
      split at h
      · exact ⟨[c], t, r, rfl, h, by simp [keeps]⟩
      · contradiction
  | many accepts =>
    obtain ⟨gone, rest, ht, hrest⟩ := exists_of_readMany h
    exact ⟨gone, rest, r, ht, hrest, by simp [keeps]⟩
  | few accepts =>
    obtain ⟨gone, rest, ht, hrest⟩ := exists_of_readFew h
    exact ⟨gone, rest, r, ht, hrest, by simp [keeps]⟩
  | seq first second ihfirst ihsecond =>
    obtain ⟨gone, middle, r', rfl, hmiddle, hfirst⟩ := ihfirst h
    obtain ⟨gone', rest, r'', rfl, hrest, hsecond⟩ := ihsecond hmiddle
    refine ⟨gone ++ gone', rest, r'', (List.append_assoc _ _ _).symm, hrest, fun n hn => ?_⟩
    rw [keeps, Bool.or_eq_true, or_assoc] at hn
    exact hfirst n (hn.imp_right (hsecond n))
  | optional body ih =>
    rw [read] at h
    rcases Option.or_eq_some_iff.mp h with h | ⟨-, h⟩
    · obtain ⟨gone, rest, r', ht, hrest, hkept⟩ := ih h
      exact ⟨gone, rest, r', ht, hrest, fun n hn => hkept n (Or.inr (hn.resolve_left (by simp [keeps])))⟩
    · exact ⟨[], t, r, rfl, h, by simp [keeps]⟩
  | group number body ih =>
    rw [read] at h
    obtain ⟨gone, rest, r', ht, hrest, hkept⟩ := ih h
    obtain ⟨r'', hr'', rfl⟩ := Option.map_eq_some_iff.mp hrest
    refine ⟨gone, rest, r'', ht, hr'', fun n hn => hkept n ?_⟩
    rw [keeps, Bool.or_eq_true, beq_iff_eq] at hn
    rw [Reading.group?_keep_isSome]
    tauto

theorem isSome_group?_of_match {s : Shape} (h : s.match? t = some r) (hn : s.keeps n) :
    (r.group? n).isSome := by
  obtain ⟨_, _, _, _, _, hkept⟩ := exists_of_read h
  exact hkept n (Or.inl hn)

theorem isSome_group?_of_matchWhole {s : Shape} (h : s.matchWhole? t = some r) (hn : s.keeps n) :
    (r.group? n).isSome := by
  obtain ⟨_, _, _, _, _, hkept⟩ := exists_of_read h
  exact hkept n (Or.inl hn)

/-- Where the shape keeps its first group, that group is there as soon as the shape is. -/
theorem firstGroup?_eq {s : Shape} (hs : s.keeps 1) (t : Text) :
    s.firstGroup? t = .ok ((s.matchWhole? t).map (·.group 1)) := by
  rw [firstGroup?]
  split
  · next h => rw [h, Option.map_none]
  · next r h =>
    rw [h, Option.map_some, Reading.index_eq (isSome_group?_of_matchWhole h hs)]
    rfl

end Reads

end Shape

end Infill
