import Infill.Proofs.Url.Segments
import Infill.Secret.Store

/-!
# Addresses of secrets

The address of a secret is that of the store with `v1` and the path of the secret behind it.  Each
segment of the path that is neither `.` nor `..` is looked at once more by the address, which drops
tabs and line ends first.  So a path can climb out of the tree under `v1`, but only if the first such
segment reads `..` then (`url_in_tree`).
-/

namespace Infill.Secret

open Infill.Url

/-- The segments of a path that its address goes through. -/
def visited (path : Text) : List Text :=
  (segments path).filter fun s => s != ".".toList && s != "..".toList

/-- The first segment goes back over `v1`. -/
def ClimbsOut (path : Text) : Prop := ∃ s ∈ (visited path).head?, kept s = ['.', '.']

/-- The path of an address is that of the base with `/v1` behind it, and ends there or goes on with a
slash. -/
def InTree (base url : Url) : Prop :=
  ∃ more, url.path = dropEndSlash base.path ++ "/v1".toList ++ more ∧
    (more = [] ∨ ∃ rest, more = '/' :: rest)

section Walks

variable {path : Text}

theorem withSegment_v1 (parts : List Text) :
    withSegment true false (withoutEmptyEnd parts) "v1".toList = stem parts ++ ["v1".toList] := by
  have hescape : escape (escapedInSegment true) (kept "v1".toList) = "v1".toList := by decide
  rw [withSegment_eq, if_neg (by decide), if_neg (by decide), hescape]
  rfl

theorem concat_v1_ne (front : List Text) : front ++ ["v1".toList] ≠ [[]] := by
  intro h
  have hend := congrArg List.getLast? h
  rw [List.getLast?_concat] at hend
  exact absurd (Option.some.inj hend) (by decide)

/-- A path that does not climb out goes on behind `v1`. -/
theorem foldl_of_not_climbsOut (h : ¬ ClimbsOut path) (front : List Text) :
    ∃ more, (visited path).foldl (withSegment true false) (front ++ ["v1".toList]) =
      front ++ "v1".toList :: more := by
  rw [ClimbsOut] at h
  cases hvisited : visited path with
  | nil => exact ⟨[], rfl⟩
  | cons s rest =>
    have hs : kept s ≠ ['.', '.'] := fun hkept => h ⟨s, by simp [hvisited], hkept⟩
    rw [List.foldl_cons, withSegment_eq, if_neg (concat_v1_ne front), if_neg hs]
    -- From the first segment on there is one behind `v1`, so nothing goes back over it.
    split
    · exact foldl_withSegment_behind true front _ [] rest
    · exact foldl_withSegment_behind true front _ _ rest

/-- A path that climbs out goes on behind the base itself. -/
theorem foldl_of_climbsOut (h : ClimbsOut path) (front : List Text) :
    ∃ rest, rest ⊆ visited path ∧
      (visited path).foldl (withSegment true false) (front ++ ["v1".toList]) =
        rest.foldl (withSegment true false) (front ++ [[]]) := by
  obtain ⟨s, hs, hkept⟩ := h
  obtain ⟨rest, hvisited⟩ := List.head?_eq_some_iff.mp hs
  have hdrive : holdsDrive "v1".toList = false := by decide
  refine ⟨rest, hvisited ▸ List.subset_cons_self s rest, ?_⟩
  rw [hvisited, List.foldl_cons, withSegment_eq, if_neg (concat_v1_ne front), if_pos hkept,
    goBack_concat, hdrive]
  rfl

/-- No path leads back to `v1` from the root if no segment reads so. -/
theorem text_ne_v1 {added : List Text} (h : ∀ s ∈ added, kept s ≠ "v1".toList) {more : Text}
    (hmore : more = [] ∨ ∃ rest, more = '/' :: rest) :
    (Trail.segments (added.foldl (withSegment true false) [[]])).text ≠ "/v1".toList ++ more := by
  intro htext
  obtain ⟨first, others, hwalk⟩ := List.exists_cons_of_ne_nil
    (foldl_withSegment_ne_nil true (List.cons_ne_nil [] []) added)
  have hmem : first ∈ added.foldl (withSegment true false) [[]] := hwalk ▸ List.mem_cons_self
  have hslash : '/' ∉ first := slash_not_mem_foldl true (by simp) added first hmem
  rw [hwalk] at htext
  have hbehind : first ++ (Trail.segments others).text = "v1".toList ++ more :=
    (List.cons.inj htext).2
  have hfirst : first = "v1".toList := eq_of_append_text hslash (by decide)
    (text_eq_nil_or_slash others) hmore hbehind
  subst hfirst
  rcases mem_foldl_withSegment added hmem with hnil | hnil | ⟨s, hs, hescape⟩
  · contradiction
  · exact absurd (List.mem_singleton.mp hnil) (by decide)
  · have hplain : '%' ∉ escape (escapedInSegment true) (kept s) := by
      rw [← hescape]
      decide
    rw [escape_eq_self hplain] at hescape
    exact h s hs hescape.symm

theorem not_climbsOut_of_plain (h : ∀ c ∈ path, isDropped c = false) : ¬ ClimbsOut path := by
  rintro ⟨s, hs, hkept⟩
  have hvisited : s ∈ visited path := List.mem_of_mem_head? hs
  obtain ⟨hsegment, hdots⟩ := List.mem_filter.mp hvisited
  have hpiece : s ∈ pieces '/' path := (List.mem_filter.mp hsegment).1
  have hsame : kept s = s :=
    List.filter_eq_self.mpr fun c hc => by simp [h c (mem_of_mem_pieces hpiece hc)]
  rw [hsame] at hkept
  subst hkept
  exact absurd hdots (by decide)

end Walks

theorem url_eq {s : Session} {base : Url} {parts : List Text} (hparse : Url.parse s.host = .ok base)
    (hweb : IsWeb base.scheme) (htrail : base.trail = .segments parts) (path : Text) :
    url s path = .ok { base with
      trail := .segments
        ((visited path).foldl (withSegment true false) (stem parts ++ ["v1".toList])) } := by
  have hspecial : isSpecialScheme base.scheme = true ∧ isFileScheme base.scheme = false := by
    rcases hweb with hscheme | hscheme <;> rw [hscheme] <;> decide
  have hadded : ("v1".toList :: segments path).filter
      (fun s => s != ".".toList && s != "..".toList) = "v1".toList :: visited path :=
    List.filter_cons_of_pos (by decide)
  simp only [url, hparse, extend?, htrail, hspecial, hadded, List.foldl_cons, withSegment_v1]

/-- The address of a secret keeps all of the base but its path, and stays in the tree under `v1`
unless the path of the secret climbs out. -/
theorem url_in_tree {s : Session} {base : Url} (hparse : Url.parse s.host = .ok base)
    (hweb : IsWeb base.scheme)
    (hinner : ∀ parts, base.trail = .segments parts → [] ∉ parts.dropLast) (path : Text) :
    ∃ u, url s path = .ok u ∧
      (u.scheme = base.scheme ∧ u.authority = base.authority ∧ u.query = base.query ∧
        u.fragment = base.fragment) ∧
      (¬ ClimbsOut path → InTree base u) ∧
      ((∀ c ∈ path, isDropped c = false) → InTree base u) ∧
      (ClimbsOut path →
        (dropEndSlash base.path ≠ [] ∨ ∀ s ∈ visited path, kept s ≠ "v1".toList) →
          ¬ InTree base u) := by
  obtain ⟨parts, htrail, hne, hslash⟩ := exists_segments_of_parse hparse hweb
  have hstem : (Trail.segments (stem parts)).text = dropEndSlash base.path := by
    rw [text_stem hne hslash (hinner parts htrail), Url.path, htrail]
  have hurl := url_eq hparse hweb htrail path
  have hstays : ¬ ClimbsOut path → InTree base { base with
      trail := .segments
        ((visited path).foldl (withSegment true false) (stem parts ++ ["v1".toList])) } := by
    intro h
    obtain ⟨more, hmore⟩ := foldl_of_not_climbsOut h (stem parts)
    refine ⟨(Trail.segments more).text, ?_, text_eq_nil_or_slash more⟩
    rw [Url.path, hmore, text_append, text_cons, hstem, List.append_assoc]
    rfl
  refine ⟨_, hurl, ⟨rfl, rfl, rfl, rfl⟩, hstays, ?plain, ?climbs⟩
  case plain =>
    intro h
    exact hstays (not_climbsOut_of_plain h)
  case climbs =>
    rintro hclimbs hother ⟨more, hpath, hmore⟩
    obtain ⟨rest, hrest, hfold⟩ := foldl_of_climbsOut hclimbs (stem parts)
    rw [Url.path, hfold, ← hstem] at hpath
    by_cases hfront : stem parts = []
    · have hsegments := hother.resolve_left (by rw [← hstem, hfront]; exact fun h => h rfl)
      rw [hfront] at hpath
      exact text_ne_v1 (fun s hs => hsegments s (hrest hs)) hmore hpath
    · -- The empty segment behind the base stays, so a second slash follows and no `v1`.
      obtain ⟨last, hlast⟩ := foldl_withSegment_keeps_empty true hfront rest
      rw [hlast, text_append, text_cons, List.append_assoc, List.append_cancel_left_eq] at hpath
      rcases text_eq_nil_or_slash last with htext | ⟨tail, htext⟩ <;> simp [htext] at hpath

/-- A store with a path and a query of its own, and empty segments in the path of the secret. -/
theorem url_in_tree_base : ∃ base u, Url.parse "http://[::1]/base/?q".toList = .ok base ∧
    IsWeb base.scheme ∧ (∀ parts, base.trail = .segments parts → [] ∉ parts.dropLast) ∧
      (∀ c ∈ "/kv//app/../b".toList, isDropped c = false) ∧
      url { host := "http://[::1]/base/?q".toList, token := ['t'] } "/kv//app/../b".toList = .ok u ∧
      u.query = base.query ∧ InTree base u := by
  let s : Session := { host := "http://[::1]/base/?q".toList, token := ['t'] }
  obtain ⟨base, hparse, hweb, htrail⟩ : ∃ base, Url.parse s.host = .ok base ∧
      IsWeb base.scheme ∧ base.trail = .segments ["base".toList, []] :=
    ⟨_, rfl, Or.inl rfl, rfl⟩
  have hinner : ∀ parts, base.trail = .segments parts → [] ∉ parts.dropLast := by
    intro parts hparts
    obtain rfl := Trail.segments.inj (htrail.symm.trans hparts)
    decide
  have hplain : ∀ c ∈ "/kv//app/../b".toList, isDropped c = false := by simp [isDropped]
  obtain ⟨u, hurl, ⟨-, -, hquery, -⟩, -, htree, -⟩ :=
    url_in_tree hparse hweb hinner "/kv//app/../b".toList
  exact ⟨base, u, hparse, hweb, hinner, hplain, hurl, hquery, htree hplain⟩

/-- A tab between two full stops leads out of the tree. -/
theorem url_leaves_tree : ∃ base u, Url.parse "https://[::1]:8200".toList = .ok base ∧
    IsWeb base.scheme ∧ (∀ parts, base.trail = .segments parts → [] ∉ parts.dropLast) ∧
      url { host := "https://[::1]:8200".toList, token := ['t'] } ".\t./sys/mounts".toList = .ok u ∧
      u.path = "/sys/mounts".toList ∧ ¬ InTree base u := by
  refine ⟨_, _, rfl, Or.inr rfl, ?_, rfl, rfl, ?_⟩
  · intro parts hparts
    obtain rfl := Trail.segments.inj hparts
    decide
  · rintro ⟨more, hpath, -⟩
    have htext : "/sys/mounts".toList = "/v1".toList ++ more := hpath
    simp at htext

end Infill.Secret
