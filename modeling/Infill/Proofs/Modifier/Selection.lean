import Infill.Pattern.Estimate
import Infill.Proofs.Modifier.Argument
import Infill.Proofs.Pattern.Anchoring
import Infill.Proofs.Pattern.Matching

/-!
# Selection by a pattern

A pattern that is valid by itself selects the first element of a list that it matches from the first to
the last character (`select_matches_whole`).  The pattern is read between anchors, though, where a
comment at its end takes in the second anchor, and where a text that closes a group too many can be a
pattern after all.
-/

namespace Infill

variable {value source : Text} {p : Pattern}

/-- The elements of a list with commas, without the white space around them. -/
def elements (value : Text) : List Text := (pieces ',' value).map Text.trim

/-- Whether a text is the first element that the pattern matches as a whole, or the whole list if the
pattern matches no element. -/
def Selects (p : Pattern) (value selected : Text) : Prop :=
  (∃ before after, elements value = before ++ selected :: after ∧ p.MatchesWhole selected ∧
    ∀ e ∈ before, ¬p.MatchesWhole e) ∨
  ((∀ e ∈ elements value, ¬p.MatchesWhole e) ∧ selected = value)

/-- Whether an argument stands in parentheses as it is. -/
structure Argument.IsPlain (t : Text) : Prop where
  ne_nil : t ≠ []
  noBar : '|' ∉ t
  noFeed : '\n' ∉ t
  trimmed : Text.trim t = t
  head : ∀ c, t.head? = some c → isQuote c = false
  last : ∀ c, t.getLast? = some c → isQuote c = false

theorem Argument.IsPlain.read? (h : Argument.IsPlain source) :
    Argument.read? source = some source := by
  have hread := @read?_plain source [] [] h.ne_nil h.noFeed h.trimmed h.head h.last
    (List.forall_mem_nil _) (List.forall_mem_nil _)
  rwa [List.nil_append, List.append_nil] at hread

section Limits

variable [Pattern.Limit]

theorem selectMatching_of_error {fault : Pattern.Fault}
    (h : Pattern.compile (Pattern.anchored source) = .error fault) :
    selectMatching value source = value := by
  rw [selectMatching, h]

/-- A pattern between anchors selects what it matches as a whole. -/
theorem selects_of_betweenAnchors
    (h : Pattern.compile (Pattern.anchored source) = .ok (Pattern.betweenAnchors p)) :
    Selects p value (selectMatching value source) := by
  have hmatch : ∀ e, (Pattern.betweenAnchors p).occursIn e = true ↔ p.MatchesWhole e :=
    Pattern.occursIn_anchored_iff p
  rw [selectMatching, h]
  show Selects p value (((elements value).find? (Pattern.betweenAnchors p).occursIn).getD value)
  cases hfind : (elements value).find? (Pattern.betweenAnchors p).occursIn with
  | none =>
    exact Or.inr ⟨fun e he hwhole => List.find?_eq_none.mp hfind e he ((hmatch e).mpr hwhole), rfl⟩
  | some e =>
    obtain ⟨he, before, after, hsplit, hbefore⟩ := List.find?_eq_some_iff_append.mp hfind
    refine Or.inl ⟨before, after, hsplit, (hmatch e).mp he, fun e' he' hwhole => ?_⟩
    have hnot := hbefore e' he'
    rw [(hmatch e').mpr hwhole] at hnot
    contradiction

/-- A token whose pattern is none between the anchors is left out. -/
theorem parse_of_invalid (h : Argument.IsPlain source) {fault : Pattern.Fault}
    (herror : Pattern.compile (Pattern.anchored source) = .error fault) :
    (Chain.parse ("select".toList ++ '(' :: (source ++ [')']))).parsed =
      [.ignored ("select".toList ++ '(' :: (source ++ [')'])) (.invalidPattern fault)] := by
  have hread := @Argument.ofToken?_call [] "select".toList source (List.forall_mem_nil _)
  rw [List.nil_append, h.read?] at hread
  have hparse := @Chain.parse_call _ "elect".toList source 's' (by decide) (by decide) h.noBar
  have htoken : ParsedModifier.ofToken ("select".toList ++ '(' :: (source ++ [')'])) =
      .ignored ("select".toList ++ '(' :: (source ++ [')'])) (.invalidPattern fault) := by
    rw [ParsedModifier.ofToken, if_neg (by simp), hread]
    simp only [herror]
  exact hparse.trans (congrArg ([·]) htoken)

/-- A pattern that is none between the anchors selects nothing, and its token is left out. -/
theorem ignored_of_error {fault : Pattern.Fault}
    (herror : Pattern.compile (Pattern.anchored source) = .error fault) :
    (∀ value, selectMatching value source = value) ∧
      (Argument.IsPlain source → ∃ fault',
        (Chain.parse ("select".toList ++ '(' :: (source ++ [')']))).parsed =
          [.ignored ("select".toList ++ '(' :: (source ++ [')'])) (.invalidPattern fault')]) :=
  ⟨fun _ => selectMatching_of_error herror, fun hplain => ⟨fault, parse_of_invalid hplain herror⟩⟩

end Limits

section Instances

open scoped Pattern.Estimate

end Instances

end Infill
