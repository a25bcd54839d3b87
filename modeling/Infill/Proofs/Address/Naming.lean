import Infill.Proofs.Address
import Infill.Proofs.Utf8

/-!
# What addresses name

The address of a secret tells which secret it is for.  What stands behind the base and `/v1`, cut
at its slashes and unescaped, are the segments of the path, unless there is something in the path
that a URL drops (`url_names_path`).  So two paths have one address just if they go through the same
segments.
-/

namespace Infill.Secret

open Infill.Url

/-- The parts of a text behind their slashes, none of an empty text. -/
def partsBehindSlashes? : Text → Option (List Text)
  | [] => some []
  | c :: rest => if c = '/' then some (pieces '/' rest) else none

/-- The text that an escaped part of an address stands for. -/
def unescaped? (part : Text) : Option Text := Utf8.decode? (unescape part)

/-- The segments that an address names behind a base and `/v1`. -/
def named? (base url : Url) : Option (List Text) :=
  (afterLead? (dropEndSlash base.path ++ "/v1".toList) url.path).bind fun rest =>
    (partsBehindSlashes? rest).bind fun parts => parts.mapM unescaped?

/-- Nothing in the path is dropped from an address. -/
def IsWhole (path : Text) : Prop := ∀ c ∈ path, isDropped c = false

section Parts

variable {path : Text}

theorem pieces_text_cons {part : Text} (hpart : '/' ∉ part) (parts : List Text)
    (hparts : ∀ p ∈ parts, '/' ∉ p) :
    pieces '/' (part ++ (Trail.segments parts).text) = part :: parts := by
  induction parts generalizing part with
  | nil =>
    show pieces '/' (part ++ []) = [part]
    rw [List.append_nil, pieces_of_not_mem hpart]
  | cons next parts ih =>
    obtain ⟨hnext, hparts⟩ := List.forall_mem_cons.mp hparts
    rw [text_cons, List.cons_append, pieces_append_sep, pieces_of_not_mem hpart, ih hnext hparts]
    rfl

theorem partsBehindSlashes?_text {parts : List Text} (hparts : ∀ p ∈ parts, '/' ∉ p) :
    partsBehindSlashes? (Trail.segments parts).text = some parts := by
  cases parts with
  | nil => rfl
  | cons part parts =>
    obtain ⟨hpart, hparts⟩ := List.forall_mem_cons.mp hparts
    rw [text_cons, List.cons_append, partsBehindSlashes?, if_pos rfl,
      pieces_text_cons hpart parts hparts]

theorem unescaped?_escape {isEscaped : Char → Bool} (hpercent : isEscaped '%' = true) (t : Text) :
    unescaped? (escape isEscaped t) = some t := by
  rw [unescaped?, unescape_escape hpercent, Utf8.decode?_encode]

theorem mapM_unescaped?_escape {isEscaped : Char → Bool} (hpercent : isEscaped '%' = true)
    (parts : List Text) : (parts.map (escape isEscaped)).mapM unescaped? = some parts := by
  induction parts with
  | nil => rfl
  | cons part parts ih =>
    rw [List.map_cons, List.mapM_cons, unescaped?_escape hpercent, ih]
    rfl

/-- A segment that the address goes through is kept as it is. -/
theorem kept_of_mem_visited (hpath : IsWhole path) {s : Text} (hs : s ∈ visited path) :
    kept s = s := by
  have hpiece : s ∈ pieces '/' path := (List.mem_filter.mp (List.mem_filter.mp hs).1).1
  apply List.filter_eq_self.mpr
  intro c hc
  simp [hpath c (mem_of_mem_pieces hpiece hc)]

theorem not_dots_of_mem_visited {s : Text} (hs : s ∈ visited path) :
    s ≠ ['.'] ∧ s ≠ ['.', '.'] := by
  have hdots := (List.mem_filter.mp hs).2
  constructor
  · rintro rfl
    exact absurd hdots (by decide)
  · rintro rfl
    exact absurd hdots (by decide)

/-- Segments that are kept as they are go behind the others one by one. -/
theorem foldl_withSegment_of_kept {done : List Text} (hne : done ≠ []) (hempty : done ≠ [[]])
    (added : List Text) (hadded : ∀ s ∈ added, kept s = s ∧ s ≠ ['.'] ∧ s ≠ ['.', '.']) :
    added.foldl (withSegment true false) done =
      done ++ added.map (escape (escapedInSegment true)) := by
  induction added generalizing done with
  | nil => rw [List.foldl_nil, List.map_nil, List.append_nil]
  | cons s added ih =>
    obtain ⟨⟨hkept, hsingle, hdouble⟩, hadded⟩ := List.forall_mem_cons.mp hadded
    have hstep : withSegment true false done s = done ++ [escape (escapedInSegment true) s] := by
      rw [withSegment_eq, hkept, if_neg hdouble, if_neg hsingle, if_neg hempty]
    have hmany : done ++ [escape (escapedInSegment true) s] ≠ [[]] := by
      intro h
      have hlength := congrArg List.length h
      simp only [List.length_append, List.length_singleton, Nat.add_eq_right,
        List.length_eq_zero_iff] at hlength
      exact hne hlength
    rw [List.foldl_cons, hstep, ih (by simp) hmany hadded, List.map_cons, List.append_assoc,
      List.singleton_append]

/-- The path of an address that nothing is dropped from. -/
theorem text_visited (hpath : IsWhole path) (front : List Text) :
    (Trail.segments ((visited path).foldl (withSegment true false)
        (front ++ ["v1".toList]))).text =
      ((Trail.segments front).text ++ "/v1".toList) ++
        (Trail.segments ((visited path).map (escape (escapedInSegment true)))).text := by
  have hvisited : ∀ s ∈ visited path, kept s = s ∧ s ≠ ['.'] ∧ s ≠ ['.', '.'] := fun s hs =>
    ⟨kept_of_mem_visited hpath hs, not_dots_of_mem_visited hs⟩
  rw [foldl_withSegment_of_kept (by simp) (concat_v1_ne front) _ hvisited, text_append, text_append]
  rfl

end Parts

section Addresses

variable {s : Session} {base : Url}

/-- The text of an address tells its path, if the rest is that of the base. -/
theorem text_eq_of_address_eq {t t' : Trail}
    (h : { base with trail := t }.text = { base with trail := t' }.text) : t.text = t'.text := by
  simp only [Url.text, List.append_assoc, List.append_cancel_left_eq] at h
  exact List.append_cancel_right h

/-- Empty segments make no difference. -/
theorem url_congr {path path' : Text} (h : segments path = segments path') :
    url s path = url s path' := by
  simp only [url, h]

theorem segments_cons_slash (path : Text) : segments ('/' :: path) = segments path := by
  simp [segments, pieces]

theorem segments_append_slash (path : Text) : segments (path ++ ['/']) = segments path := by
  rw [segments, segments, pieces_append_sep, List.filter_append]
  exact List.append_nil _

theorem segments_double_slash (front back : Text) :
    segments (front ++ '/' :: '/' :: back) = segments (front ++ '/' :: back) := by
  simp only [segments, pieces_append_sep, pieces, if_true, List.filter_append]
  rfl

/-- The address of a secret names the segments of its path, and no other path without the same
segments has it. -/
theorem url_names_path (hparse : Url.parse s.host = .ok base) (hweb : IsWeb base.scheme)
    (hinner : ∀ parts, base.trail = .segments parts → [] ∉ parts.dropLast) :
    (∀ path, IsWhole path → ∃ u, url s path = .ok u ∧ named? base u = some (visited path)) ∧
    (∀ p q, IsWhole p → IsWhole q →
      (url s p = url s q ↔ visited p = visited q) ∧
      ((url s p).map Url.text = (url s q).map Url.text ↔ visited p = visited q)) ∧
    (∀ path, url s ('/' :: path) = url s path ∧ url s (path ++ ['/']) = url s path) ∧
    ∀ front back, url s (front ++ '/' :: '/' :: back) = url s (front ++ '/' :: back) := by
  obtain ⟨parts, htrail, hne, hslash⟩ := exists_segments_of_parse hparse hweb
  have hstem : (Trail.segments (stem parts)).text = dropEndSlash base.path := by
    rw [text_stem hne hslash (hinner parts htrail), Url.path, htrail]
  have hurl := url_eq hparse hweb htrail
  have hnamed : ∀ path, IsWhole path → ∀ u, u.path = (Trail.segments
      ((visited path).foldl (withSegment true false) (stem parts ++ ["v1".toList]))).text →
        named? base u = some (visited path) := by
    intro path hpath u hu
    have hescaped : ∀ part ∈ (visited path).map (escape (escapedInSegment true)), '/' ∉ part := by
      intro part hpart
      obtain ⟨s, -, rfl⟩ := List.mem_map.mp hpart
      exact slash_not_mem_escape fun _ => by decide
    rw [named?, hu, text_visited hpath, hstem, afterLead?_append, Option.bind_some,
      partsBehindSlashes?_text hescaped, Option.bind_some]
    exact mapM_unescaped?_escape (by decide) _
  refine ⟨?names, ?tells, ?ends, ?inside⟩
  case names =>
    intro path hpath
    exact ⟨_, hurl path, hnamed path hpath _ rfl⟩
  case tells =>
    intro p q hp hq
    have hsame : visited p = visited q → url s p = url s q := by
      intro h
      rw [hurl, hurl, h]
    have htext : (url s p).map Url.text = (url s q).map Url.text → visited p = visited q := by
      intro h
      rw [hurl, hurl] at h
      have hpath := text_eq_of_address_eq (Except.ok.inj h)
      have hnames := hnamed p hp { base with trail := .segments _ } rfl
      rw [hnamed q hq { base with trail := .segments _ } hpath] at hnames
      exact (Option.some.inj hnames).symm
    refine ⟨⟨fun h => htext (by rw [h]), hsame⟩, ⟨htext, fun h => by rw [hsame h]⟩⟩
  case ends =>
    intro path
    exact ⟨url_congr (segments_cons_slash path), url_congr (segments_append_slash path)⟩
  case inside =>
    intro front back
    exact url_congr (segments_double_slash front back)

/-- Characters that would cut a path, or that look escaped already, are read back as they are. -/
theorem url_names_path_escaped : ∃ base u, Url.parse "http://[::1]/base/?q".toList = .ok base ∧
    IsWeb base.scheme ∧ (∀ parts, base.trail = .segments parts → [] ∉ parts.dropLast) ∧
      IsWhole "/a%2F//./b?\\é".toList ∧ IsWhole "a/b?\\é".toList ∧
      url { host := "http://[::1]/base/?q".toList, token := ['t'] } "/a%2F//./b?\\é".toList = .ok u ∧
      named? base u = some ["a%2F".toList, "b?\\é".toList] ∧
      url { host := "http://[::1]/base/?q".toList, token := ['t'] } "a/b?\\é".toList ≠ .ok u := by
  let s : Session := { host := "http://[::1]/base/?q".toList, token := ['t'] }
  obtain ⟨base, hparse, hweb, htrail⟩ : ∃ base, Url.parse s.host = .ok base ∧
      IsWeb base.scheme ∧ base.trail = .segments ["base".toList, []] :=
    ⟨_, rfl, Or.inl rfl, rfl⟩
  have hinner : ∀ parts, base.trail = .segments parts → [] ∉ parts.dropLast := by
    intro parts hparts
    obtain rfl := Trail.segments.inj (htrail.symm.trans hparts)
    decide
  have hwhole : IsWhole "/a%2F//./b?\\é".toList := by simp [IsWhole, isDropped]
  have hother : IsWhole "a/b?\\é".toList := by simp [IsWhole, isDropped]
  obtain ⟨hnames, htells, -, -⟩ := url_names_path hparse hweb hinner
  obtain ⟨u, hurl, hnamed⟩ := hnames _ hwhole
  refine ⟨base, u, hparse, hweb, hinner, hwhole, hother, hurl, hnamed, ?_⟩
  rw [← hurl]
  intro hsame
  exact absurd ((htells _ _ hother hwhole).1.mp hsame) (by decide)

end Addresses

end Infill.Secret
