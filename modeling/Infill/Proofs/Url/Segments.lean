import Infill.Proofs.Url.Percent
import Infill.Url.Parser

/-!
# Segments of a path

A segment that is added to the address of a web server goes behind the others, unless it reads `.` or
`..` without the characters that are dropped (`withSegment_eq`).  What stands in front of the last
segment but one is never touched, however many are added (`foldl_withSegment_keeps`).

The path of a web address has at least one segment, and none holds a slash
(`exists_segments_of_parse`).
-/

namespace Infill.Url

/-- What a URL keeps of a segment. -/
def kept (s : Text) : Text := s.filter fun c => !isDropped c

/-- The segments of a path that others are added behind: those without an empty one at the end. -/
def stem (parts : List Text) : List Text :=
  if withoutEmptyEnd parts = [[]] then [] else withoutEmptyEnd parts

/-- The text without one slash at its end. -/
def dropEndSlash (t : Text) : Text := if t.getLast? = some '/' then t.dropLast else t

section Steps

variable {special : Bool} {front segments : List Text} {s : Text}

theorem goBack_concat (done : List Text) (last : Text) :
    goBack (done ++ [last]) = if holdsDrive last then done ++ [last] else done := by
  rw [goBack, List.getLast?_concat, List.dropLast_concat]

theorem mem_of_mem_goBack {p : Text} (h : p ∈ goBack segments) : p ∈ segments := by
  rcases List.eq_nil_or_concat' segments with rfl | ⟨done, last, rfl⟩
  · exact h
  · rw [goBack_concat] at h
    split at h
    · exact h
    · exact List.mem_append_left _ h

theorem lastStep_ne_nil (isFile : Bool) (done : List Text) (s : Text) :
    lastStep isFile done s ≠ [] := by
  rw [lastStep]
  split
  · simp
  · split <;> simp

theorem mem_lastStep {p : Text} (h : p ∈ lastStep false segments s) :
    p = [] ∨ p ∈ segments ∨ p = s := by
  rw [lastStep] at h
  split at h
  · rcases List.mem_append.mp h with h | h
    · exact Or.inr (Or.inl (mem_of_mem_goBack h))
    · exact Or.inl (List.mem_singleton.mp h)
  · split at h
    · rcases List.mem_append.mp h with h | h
      · exact Or.inr (Or.inl h)
      · exact Or.inl (List.mem_singleton.mp h)
    · rcases List.mem_append.mp h with h | h
      · exact Or.inr (Or.inl h)
      · exact Or.inr (Or.inr (List.mem_singleton.mp h))

/-- What a segment that is added comes to. -/
theorem withSegment_eq (special : Bool) (segments : List Text) (s : Text) :
    withSegment special false segments s =
      if kept s = ['.', '.'] then goBack (if segments = [[]] then [] else segments) ++ [[]]
      else if kept s = ['.'] then (if segments = [[]] then [] else segments) ++ [[]]
      else (if segments = [[]] then [] else segments) ++
        [escape (escapedInSegment special) (kept s)] := by
  have hpercent : escapedInSegment special '%' = true := by cases special <;> decide
  have hdot : escapedInSegment special '.' = false := by cases special <;> decide
  have hdouble := isDoubleDot_escape hpercent hdot (t := kept s)
  have hsingle := isSingleDot_escape hpercent hdot (t := kept s)
  show lastStep false _ (escape (escapedInSegment special) (kept s)) = _
  simp only [lastStep, hdouble, hsingle, settled, Bool.false_and, Bool.false_eq_true, if_false]

/-- Whatever is added goes behind what stands in front of the last segment. -/
theorem withSegment_keeps (hfront : front ≠ []) (hne : segments ≠ []) (s : Text) :
    ∃ more, more ≠ [] ∧ withSegment special false (front ++ segments) s = front ++ more := by
  have hmany : front ++ segments ≠ [[]] := by
    intro h
    have hlength := congrArg List.length h
    have hfrontLength := List.length_pos_of_ne_nil hfront
    have hsegmentsLength := List.length_pos_of_ne_nil hne
    rw [List.length_append, List.length_singleton] at hlength
    omega
  rw [withSegment_eq, if_neg hmany]
  split
  · obtain ⟨done, last, rfl⟩ := (List.eq_nil_or_concat' segments).resolve_left hne
    rw [← List.append_assoc, goBack_concat]
    split
    · exact ⟨done ++ [last] ++ [[]], by simp, by simp⟩
    · exact ⟨done ++ [[]], by simp, by simp⟩
  · split
    · exact ⟨segments ++ [[]], by simp, by simp⟩
    · exact ⟨segments ++ [escape (escapedInSegment special) (kept s)], by simp, by simp⟩

theorem foldl_withSegment_keeps (hfront : front ≠ []) (hne : segments ≠ [])
    (added : List Text) : ∃ more, more ≠ [] ∧
      added.foldl (withSegment special false) (front ++ segments) = front ++ more := by
  induction added generalizing segments with
  | nil => exact ⟨segments, hne, rfl⟩
  | cons s added ih =>
    obtain ⟨more, hmore, hstep⟩ := withSegment_keeps hfront hne s
    rw [List.foldl_cons, hstep]
    exact ih hmore

/-- A segment with another one behind it stays. -/
theorem foldl_withSegment_behind (special : Bool) (front : List Text) (part last : Text)
    (added : List Text) : ∃ more,
      added.foldl (withSegment special false) (front ++ [part] ++ [last]) = front ++ part :: more := by
  have hsome : front ++ [part] ≠ [] := List.append_ne_nil_of_right_ne_nil _ (List.cons_ne_nil _ _)
  obtain ⟨more, -, hmore⟩ := foldl_withSegment_keeps hsome (List.cons_ne_nil last []) added
  exact ⟨more, by rw [hmore, List.append_assoc, List.singleton_append]⟩

/-- An empty segment behind others stays as well. -/
theorem foldl_withSegment_keeps_empty (special : Bool) (hfront : front ≠ []) (added : List Text) :
    ∃ more, added.foldl (withSegment special false) (front ++ [[]]) = front ++ [] :: more := by
  induction added with
  | nil => exact ⟨[], rfl⟩
  | cons s added ih =>
    have hmany : front ++ [[]] ≠ [[]] := by simpa using hfront
    have hempty : holdsDrive [] = false := rfl
    rw [List.foldl_cons, withSegment_eq, if_neg hmany]
    split
    · -- Going back takes the empty segment away, and puts an empty one there again.
      rw [goBack_concat, hempty]
      exact ih
    · split
      · exact foldl_withSegment_behind special front [] [] added
      · exact foldl_withSegment_behind special front [] _ added

theorem foldl_withSegment_ne_nil (special : Bool) (hne : segments ≠ []) (added : List Text) :
    added.foldl (withSegment special false) segments ≠ [] := by
  induction added generalizing segments with
  | nil => exact hne
  | cons s added ih => exact ih (lastStep_ne_nil false _ _)

/-- A segment comes from what is added, or has been there before, or is empty. -/
theorem mem_foldl_withSegment {p : Text} (added : List Text)
    (h : p ∈ added.foldl (withSegment special false) segments) :
    p = [] ∨ p ∈ segments ∨ ∃ s ∈ added, p = escape (escapedInSegment special) (kept s) := by
  induction added generalizing segments with
  | nil => exact Or.inr (Or.inl h)
  | cons s added ih =>
    have hdone : p ∈ (if segments = [[]] then [] else segments) → p ∈ segments := by
      split
      · exact fun h => absurd h List.not_mem_nil
      · exact id
    rcases ih h with h | h | ⟨s', hs', h⟩
    · exact Or.inl h
    · rcases mem_lastStep h with h | h | h
      · exact Or.inl h
      · exact Or.inr (Or.inl (hdone h))
      · exact Or.inr (Or.inr ⟨s, List.mem_cons_self, h⟩)
    · exact Or.inr (Or.inr ⟨s', List.mem_cons_of_mem _ hs', h⟩)

theorem slash_not_mem_foldl (special : Bool) (hslash : ∀ p ∈ segments, '/' ∉ p)
    (added : List Text) : ∀ p ∈ added.foldl (withSegment special false) segments, '/' ∉ p := by
  intro p hp
  rcases mem_foldl_withSegment added hp with rfl | h | ⟨s, -, rfl⟩
  · exact List.not_mem_nil
  · exact hslash p h
  · exact slash_not_mem_escape fun _ => by cases special <;> decide

end Steps

section Texts

variable {parts : List Text}

theorem text_append (front more : List Text) :
    (Trail.segments (front ++ more)).text =
      (Trail.segments front).text ++ (Trail.segments more).text := List.flatMap_append

theorem text_cons (part : Text) (more : List Text) :
    (Trail.segments (part :: more)).text = '/' :: part ++ (Trail.segments more).text := rfl

/-- The text of segments is empty or starts with a slash. -/
theorem text_eq_nil_or_slash (parts : List Text) :
    (Trail.segments parts).text = [] ∨ ∃ more, (Trail.segments parts).text = '/' :: more := by
  cases parts with
  | nil => exact Or.inl rfl
  | cons part more => exact Or.inr ⟨_, rfl⟩

/-- The first segment reaches to the first slash behind it. -/
theorem eq_of_append_text {a b x y : Text} (ha : '/' ∉ a) (hb : '/' ∉ b)
    (hx : x = [] ∨ ∃ more, x = '/' :: more) (hy : y = [] ∨ ∃ more, y = '/' :: more)
    (h : a ++ x = b ++ y) : a = b := by
  have hfirst : ∀ a x : Text, '/' ∉ a → (x = [] ∨ ∃ more, x = '/' :: more) →
      (a ++ x).takeWhile (· != '/') = a := by
    intro a x ha hx
    have hall : ∀ c ∈ a, (c != '/') = true := by
      intro c hc
      simpa using ne_of_mem_of_not_mem hc ha
    rcases hx with rfl | ⟨more, rfl⟩
    · rw [List.append_nil, List.takeWhile_eq_self_iff.mpr hall]
    · exact takeWhile_append_stop hall rfl more
  rw [← hfirst a x ha hx, h, hfirst b y hb hy]

/-- More segments go behind the path without one slash at its end. -/
theorem text_stem (hne : parts ≠ []) (hslash : ∀ part ∈ parts, '/' ∉ part)
    (hinner : [] ∉ parts.dropLast) :
    (Trail.segments (stem parts)).text = dropEndSlash (Trail.segments parts).text := by
  obtain ⟨front, last, rfl⟩ := (List.eq_nil_or_concat' parts).resolve_left hne
  rw [List.dropLast_concat] at hinner
  have htext : (Trail.segments (front ++ [last])).text =
      (Trail.segments front).text ++ '/' :: last := by
    rw [text_append, text_cons]
    exact congrArg _ (List.append_nil _)
  by_cases hlast : last = []
  · subst hlast
    have hstem : stem (front ++ [[]]) = front := by
      cases front with
      | nil => rfl
      | cons part front =>
        have hlong : 2 ≤ (part :: front ++ [[]]).length := by simp
        have hsome : part :: front ≠ [[]] := by
          intro h
          exact hinner (h ▸ List.mem_singleton_self [])
        simp only [stem, withoutEmptyEnd, List.getLast?_concat, List.dropLast_concat, hlong,
          decide_true, beq_self_eq_true, Bool.and_self, if_true, hsome, if_false]
    rw [hstem, htext, dropEndSlash, if_pos List.getLast?_concat, List.dropLast_concat]
  · have hstem : stem (front ++ [last]) = front ++ [last] := by
      have hend : ((front ++ [last]).getLast? == some []) = false := by
        rw [List.getLast?_concat]
        simpa using hlast
      have hsome : front ++ [last] ≠ [[]] := by
        intro h
        have hend := congrArg List.getLast? h
        rw [List.getLast?_concat] at hend
        exact hlast (Option.some.inj hend)
      simp only [stem, withoutEmptyEnd, hend, Bool.and_false, Bool.false_eq_true, if_false, hsome]
    have hend : ((Trail.segments front).text ++ '/' :: last).getLast? ≠ some '/' := by
      obtain ⟨start, c, rfl⟩ := (List.eq_nil_or_concat' last).resolve_left hlast
      have hc : '/' ∉ start ++ [c] := hslash _ (by simp)
      rw [← List.cons_append, ← List.append_assoc, List.getLast?_concat]
      intro h
      exact hc (by simp [Option.some.inj h])
    rw [hstem, htext, dropEndSlash, if_neg hend]

end Texts

section Reading

variable {special isFile : Bool} {done segments : List Text} {u : Url}

theorem walk_cons (isFile : Bool) (done : List Text) (s : Text) {rest : List Text}
    (h : rest ≠ []) : walk isFile done (s :: rest) =
      if isDoubleDot s then walk isFile (goBack done) rest
      else if isSingleDot s then walk isFile done rest
      else walk isFile (done ++ [settled isFile done s]) rest := by
  rw [walk]
  simpa using h

theorem walk_ne_nil (done : List Text) (h : segments ≠ []) : walk isFile done segments ≠ [] := by
  induction segments generalizing done with
  | nil => contradiction
  | cons s rest ih =>
    by_cases hrest : rest = []
    · subst hrest
      exact lastStep_ne_nil isFile done s
    · rw [walk_cons isFile done s hrest]
      split
      · exact ih _ hrest
      · split
        · exact ih _ hrest
        · exact ih _ hrest

theorem mem_walk {p : Text} (h : p ∈ walk false done segments) :
    p = [] ∨ p ∈ done ∨ p ∈ segments := by
  induction segments generalizing done with
  | nil => exact Or.inr (Or.inl h)
  | cons s rest ih =>
    by_cases hrest : rest = []
    · subst hrest
      rcases mem_lastStep h with h | h | h
      · exact Or.inl h
      · exact Or.inr (Or.inl h)
      · exact Or.inr (Or.inr (List.mem_singleton.mpr h))
    · rw [walk_cons false done s hrest] at h
      have hlater : ∀ p, p ∈ rest → p ∈ s :: rest := fun p => List.mem_cons_of_mem s
      split at h
      · rcases ih h with h | h | h
        · exact Or.inl h
        · exact Or.inr (Or.inl (mem_of_mem_goBack h))
        · exact Or.inr (Or.inr (hlater p h))
      · split at h
        · rcases ih h with h | h | h
          · exact Or.inl h
          · exact Or.inr (Or.inl h)
          · exact Or.inr (Or.inr (hlater p h))
        · rcases ih h with h | h | h
          · exact Or.inl h
          · rcases List.mem_append.mp h with h | h
            · exact Or.inr (Or.inl h)
            · exact Or.inr (Or.inr (List.mem_singleton.mp h ▸ List.mem_cons_self))
          · exact Or.inr (Or.inr (hlater p h))

/-- A path outside of files has at least one segment, and no segment holds a slash. -/
theorem segmentsOf_fits (special : Bool) (t : Text) :
    segmentsOf special false t ≠ [] ∧ ∀ part ∈ segmentsOf special false t, '/' ∉ part := by
  show walk false [] _ ≠ [] ∧ ∀ part ∈ walk false [] _, '/' ∉ part
  constructor
  · exact walk_ne_nil [] (by simpa using pieces_ne_nil '/' _)
  · intro part hpart
    rcases mem_walk hpart with rfl | h | h
    · exact List.not_mem_nil
    · exact absurd h List.not_mem_nil
    · obtain ⟨piece, hpiece, rfl⟩ := List.mem_map.mp h
      exact slash_not_mem_escape fun hslash => absurd hslash (not_mem_of_mem_pieces hpiece)

theorem withEnd_scheme (u : Url) (t : Text) : (withEnd u t).scheme = u.scheme := by
  unfold withEnd
  dsimp only
  split <;> rfl

theorem withEnd_trail (u : Url) (t : Text) : (withEnd u t).trail = u.trail := by
  unfold withEnd
  dsimp only
  split <;> rfl

theorem ofAuthority_eq_ok {scheme t : Text} (h : ofAuthority scheme t = .ok u) :
    u.scheme = scheme ∧ (isSpecialScheme scheme = true →
      ∃ path, u.trail = .segments (segmentsOf true false path)) := by
  rw [ofAuthority] at h
  cases hauthority : takeAuthority scheme t with
  | error fault =>
    rw [hauthority] at h
    contradiction
  | ok taken =>
    rw [hauthority] at h
    obtain rfl := Except.ok.inj h
    refine ⟨withEnd_scheme _ _, fun hspecial => ?_⟩
    rw [withEnd_trail, hspecial]
    exact ⟨_, rfl⟩

theorem scheme_of_ofFile {scheme t : Text} (h : ofFile scheme t = .ok u) : u.scheme = scheme := by
  unfold ofFile at h
  split at h
  next name rest _ =>
    dsimp only at h
    split at h
    · obtain rfl := Except.ok.inj h
      exact withEnd_scheme _ _
    · cases hhost : Host.parse name with
      | error fault =>
        rw [hhost] at h
        contradiction
      | ok host =>
        rw [hhost] at h
        obtain rfl := Except.ok.inj h
        exact withEnd_scheme _ _

theorem scheme_ofUnknown (scheme t : Text) : (ofUnknown scheme t).scheme = scheme := by
  unfold ofUnknown
  dsimp only
  split
  · exact withEnd_scheme _ _
  · exact withEnd_scheme _ _

/-- The scheme of an address of the web. -/
def IsWeb (scheme : Text) : Prop := scheme = "http".toList ∨ scheme = "https".toList

/-- The path of a web address has at least one segment, and no segment holds a slash. -/
theorem exists_segments_of_parse {t : Text} (h : parse t = .ok u) (hweb : IsWeb u.scheme) :
    ∃ parts, u.trail = .segments parts ∧ parts ≠ [] ∧ ∀ part ∈ parts, '/' ∉ part := by
  have hspecial : isSpecialScheme u.scheme = true := by
    rcases hweb with hscheme | hscheme <;> rw [hscheme] <;> decide
  have hnoFile : isFileScheme u.scheme = false := by
    rcases hweb with hscheme | hscheme <;> rw [hscheme] <;> decide
  unfold parse at h
  dsimp only at h
  split at h
  · contradiction
  · next scheme rest hscheme =>
    split at h
    · next hfile =>
      rw [scheme_of_ofFile h, hfile] at hnoFile
      contradiction
    · split at h
      · next hknown =>
        obtain ⟨-, htrail⟩ := ofAuthority_eq_ok h
        obtain ⟨path, htrail⟩ := htrail hknown
        exact ⟨_, htrail, segmentsOf_fits true path⟩
      · next hunknown =>
        split at h
        · rw [(ofAuthority_eq_ok h).1] at hspecial
          exact absurd hspecial hunknown
        · obtain rfl := Except.ok.inj h
          rw [scheme_ofUnknown] at hspecial
          exact absurd hspecial hunknown

end Reading

end Infill.Url
