import Infill.Pattern.Estimate
import Infill.Proofs.Modifier.Writing
import Mathlib.Logic.Relation

/-!
# Chains in a row

A chain of modifiers that is written behind another one works on what the other one has made.
Ignored tokens, and the way in which modifiers of the value and modifiers of the line are mixed, make
no difference; nor does what stands in front of a fallback, to the value (`Chain.parse_join`).
-/

namespace Infill

namespace Chain

/-- The modifiers of a chain that act on the value, in order. -/
def dataModifiers (chain : Chain) : List Modifier := chain.modifiers.filter fun m => !m.isLine

/-- The modifiers of a chain that act on the line, in order. -/
def lineModifiers (chain : Chain) : List Modifier := chain.modifiers.filter Modifier.isLine

/-- A change of the tokens of a chain: an ignored token goes, or a modifier of the line moves behind
a modifier of the value. -/
inductive Step : List ParsedModifier → List ParsedModifier → Prop
  | drop (before after : List ParsedModifier) (token : Text) (reason : Neglect) :
      Step (before ++ .ignored token reason :: after) (before ++ after)
  | move (before after : List ParsedModifier) {onLine onValue : Modifier}
      (hline : onLine.isLine = true) (hvalue : onValue.isLine = false) :
      Step (before ++ .recognized onLine :: .recognized onValue :: after)
        (before ++ .recognized onValue :: .recognized onLine :: after)

section Laws

variable {c c' : Chain}

/-- A line is left alone by the modifiers of the value. -/
theorem applyLine_eq_foldlM (c : Chain) (line : Text) :
    c.applyLine line = c.lineModifiers.foldlM Modifier.applyLine line := by
  have hidle : ∀ line m, (if m.isLine then Modifier.applyLine line m else pure line) =
      Modifier.applyLine line m := by
    intro line m
    cases m <;> rfl
  rw [applyLine, lineModifiers, List.foldlM_filter]
  simp only [hidle]

/-- Chains act on a line one after the other as the line modifiers of all of them do. -/
theorem foldlM_applyLine (chains : List Chain) (line : Text) :
    chains.foldlM (fun line chain => chain.applyLine line) line =
      (chains.flatMap lineModifiers).foldlM Modifier.applyLine line := by
  induction chains generalizing line with
  | nil => rfl
  | cons chain chains ih =>
    rw [List.foldlM_cons, List.flatMap_cons, List.foldlM_append, chain.applyLine_eq_foldlM]
    simp only [ih]

theorem modifiers_append (before after : List ParsedModifier) :
    ({ parsed := before ++ after } : Chain).modifiers =
      ({ parsed := before } : Chain).modifiers ++ ({ parsed := after } : Chain).modifiers :=
  List.filterMap_append

/-- The chain of two lists of tokens is the second after the first, if the first comes to a line. -/
theorem applyLine_append (before after : List ParsedModifier) (line : Text) :
    ({ parsed := before ++ after } : Chain).applyLine line =
      ({ parsed := before } : Chain).applyLine line >>= ({ parsed := after } : Chain).applyLine := by
  simp only [applyLine, modifiers_append, List.foldlM_append]
  rfl

/-- Where there is a fallback there is a last one. -/
theorem exists_last_default {tokens : List ParsedModifier} {fallback : Text}
    (h : .recognized (.default fallback) ∈ tokens) :
    ∃ before last after, tokens = before ++ .recognized (.default last) :: after ∧
      ∀ other, .recognized (.default other) ∉ after := by
  induction tokens generalizing fallback with
  | nil => exact absurd h List.not_mem_nil
  | cons token tokens ih =>
    by_cases hlater : ∃ other, .recognized (.default other) ∈ tokens
    · obtain ⟨other, hother⟩ := hlater
      obtain ⟨before, last, after, rfl, hlast⟩ := ih hother
      exact ⟨token :: before, last, after, rfl, hlast⟩
    · have hnone := not_exists.mp hlater
      obtain rfl := (List.mem_cons.mp h).resolve_right (hnone fallback)
      exact ⟨[], fallback, tokens, rfl, hnone⟩

/-- A change leaves the modifiers of either kind as they are, in their order. -/
theorem Step.modifiers_eq {tokens tokens' : List ParsedModifier} (h : Step tokens tokens') :
    ({ parsed := tokens } : Chain).dataModifiers = ({ parsed := tokens' } : Chain).dataModifiers ∧
      ({ parsed := tokens } : Chain).lineModifiers =
        ({ parsed := tokens' } : Chain).lineModifiers := by
  cases h with
  | drop before after token reason =>
    simp [dataModifiers, lineModifiers, modifiers, List.filterMap_cons, ParsedModifier.modifier?]
  | move before after hline hvalue =>
    simp [dataModifiers, lineModifiers, modifiers, ParsedModifier.modifier?, hline, hvalue]

theorem modifiers_eq_of_steps {tokens tokens' : List ParsedModifier}
    (h : Relation.EqvGen Step tokens tokens') :
    ({ parsed := tokens } : Chain).dataModifiers = ({ parsed := tokens' } : Chain).dataModifiers ∧
      ({ parsed := tokens } : Chain).lineModifiers =
        ({ parsed := tokens' } : Chain).lineModifiers := by
  induction h with
  | rel _ _ hstep => exact hstep.modifiers_eq
  | refl _ => exact ⟨rfl, rfl⟩
  | symm _ _ _ ih => exact ⟨ih.1.symm, ih.2.symm⟩
  | trans _ _ _ _ _ ih ih' => exact ⟨ih.1.trans ih'.1, ih.2.trans ih'.2⟩

end Laws

section Values

variable [Pattern.Limit]

theorem applyData_eq_foldl (c : Chain) (value : Text) :
    c.applyData value = c.dataModifiers.foldl Modifier.applyData value := rfl

/-- The chain of two lists of tokens is the second after the first. -/
theorem applyData_append (before after : List ParsedModifier) (value : Text) :
    ({ parsed := before ++ after } : Chain).applyData value =
      ({ parsed := after } : Chain).applyData (({ parsed := before } : Chain).applyData value) := by
  simp only [applyData, modifiers_append, List.filter_append, List.foldl_append]

/-- The value that comes to a fallback is forgotten. -/
theorem applyData_of_default (before after : List ParsedModifier) (fallback value : Text) :
    ({ parsed := before ++ .recognized (.default fallback) :: after } : Chain).applyData value =
      ({ parsed := after } : Chain).applyData fallback := by
  rw [applyData_append]
  rfl

/-- A chain behind a bar works on what the chain before the bar has made, if that comes to anything.
Ignored tokens and the mixing of the two kinds of modifiers make no difference, and the value is that of
the last fallback, worked on by what follows it. -/
theorem parse_join (a b : Text) :
    (parse (a ++ '|' :: b)).parsed = (parse a).parsed ++ (parse b).parsed ∧
    (∀ value, (parse (a ++ '|' :: b)).applyData value =
      (parse b).applyData ((parse a).applyData value)) ∧
    (∀ line, (parse (a ++ '|' :: b)).applyLine line =
      (parse a).applyLine line >>= (parse b).applyLine) ∧
    (∀ c c' : Chain, Relation.EqvGen Step c.parsed c'.parsed →
      ∀ text, c.applyData text = c'.applyData text ∧ c.applyLine text = c'.applyLine text) ∧
    (∀ (c : Chain) (fallback : Text), .recognized (.default fallback) ∈ c.parsed →
      ∃ before last after, c.parsed = before ++ .recognized (.default last) :: after ∧
        (∀ other, .recognized (.default other) ∉ after) ∧
        ∀ value, c.applyData value = ({ parsed := after } : Chain).applyData last) := by
  have hjoin : parse (a ++ '|' :: b) = { parsed := (parse a).parsed ++ (parse b).parsed } :=
    congrArg Chain.mk (parse_append a b)
  refine ⟨parse_append a b, ?value, ?line, ?steps, ?fallback⟩
  case value =>
    intro value
    rw [hjoin, applyData_append]
  case line =>
    intro line
    rw [hjoin, applyLine_append]
  case steps =>
    intro c c' hsteps text
    obtain ⟨hdata, hline⟩ := modifiers_eq_of_steps hsteps
    constructor
    · rw [applyData_eq_foldl, hdata, ← applyData_eq_foldl]
    · rw [applyLine_eq_foldlM, hline, ← applyLine_eq_foldlM]
  case fallback =>
    intro c fallback hmem
    obtain ⟨before, last, after, htokens, hlast⟩ := exists_last_default hmem
    refine ⟨before, last, after, htokens, hlast, fun value => ?_⟩
    rw [← applyData_of_default before after last value, ← htokens]

end Values

open scoped Pattern.Estimate in
/-- An unknown token, and an indentation that is written before a fallback. -/
theorem parse_join_mixed :
    let c : Chain := { parsed := [.ignored "upper".toList .unknown, .recognized (.indent 2),
      .recognized (.default "d".toList), .recognized .base64] }
    let c' : Chain := { parsed := [.recognized (.default "d".toList), .recognized .base64,
      .recognized (.indent 2)] }
    Relation.EqvGen Step c.parsed c'.parsed ∧
      (c.applyData "v".toList = c'.applyData "v".toList ∧
        c.applyLine "v".toList = c'.applyLine "v".toList) ∧
      (∃ before last after, c.parsed = before ++ .recognized (.default last) :: after ∧
        c.applyData "v".toList = ({ parsed := after } : Chain).applyData last) ∧
      c.applyData "v".toList = "ZA==".toList := by
  intro c c'
  obtain ⟨-, -, -, hsteps, hfallback⟩ := parse_join [] []
  have hjoined : Relation.EqvGen Step c.parsed c'.parsed :=
    .trans _ _ _ (.rel _ _ (.drop [] _ _ _))
      (.trans _ _ _ (.rel _ _ (.move [] _ rfl rfl)) (.rel _ _ (.move [_] _ rfl rfl)))
  have hmem : .recognized (.default "d".toList) ∈ c.parsed := by simp [c]
  obtain ⟨before, last, after, htokens, -, hvalue⟩ := hfallback c _ hmem
  exact ⟨hjoined, hsteps c c' hjoined _, ⟨before, last, after, htokens, hvalue _⟩, rfl⟩

end Chain

end Infill
