import Infill.Proofs.Placeholder.Scan

/-!
# Spelling placeholders

A `Spelling` is a placeholder as a user writes it: names with any white space around them, and
modifiers if there are any.  What it names comes out of its text again, and a line made of literal
texts without `$` and of spellings of one dialect is cut into just these (`ofLine_fill`).
-/

namespace Infill

/-- A text that names something: not empty, without white space at its ends, and without certain
characters. -/
structure IsName (stops t : Text) : Prop where
  ne_nil : t ≠ []
  trimmed : Text.trim t = t
  noStop : ∀ c ∈ t, c ∉ stops

/-- A name is one for other excluded characters as well, if those are excluded or not in it. -/
theorem IsName.of_stops {stops stops' t : Text} (h : IsName stops t)
    (hstops : ∀ c ∈ stops', c ∈ stops ∨ c ∉ t) : IsName stops' t := by
  refine ⟨h.ne_nil, h.trimmed, ?_⟩
  intro c hc hstop
  rcases hstops c hstop with hmem | hfree
  · exact h.noStop c hc hmem
  · exact hfree hc

theorem IsName.mono {stops stops' t : Text} (h : IsName stops t) (hsub : ∀ c ∈ stops', c ∈ stops) :
    IsName stops' t :=
  h.of_stops fun c hc => Or.inl (hsub c hc)

/-- A placeholder with the white space in its gaps. -/
inductive Spelling
  | secret (lead beforePath path afterPath beforeKey key afterKey : Text) (modifiers : Option Text)
  | reference (lead beforeKey key afterKey : Text) (modifiers : Option Text)

namespace Spelling

/-- The modifiers with the `|` in front of them. -/
def suffix : Option Text → Text
  | none => []
  | some modifiers => '|' :: modifiers

def dialect : Spelling → Dialect
  | secret .. => .secret
  | reference .. => .reference

def target : Spelling → Target
  | secret _ _ path _ _ key _ _ => .secret path key
  | reference _ _ key _ _ => .setting key

def modifiers : Spelling → Option Text
  | secret _ _ _ _ _ _ _ modifiers => modifiers
  | reference _ _ _ _ modifiers => modifiers

def text : Spelling → Text
  | secret lead beforePath path afterPath beforeKey key afterKey modifiers =>
    ['$', '{'] ++ lead ++ Dialect.secret.keyword ++ beforePath ++ path ++ afterPath ++ ['@'] ++
      beforeKey ++ key ++ afterKey ++ suffix modifiers ++ ['}']
  | reference lead beforeKey key afterKey modifiers =>
    ['$', '{'] ++ lead ++ Dialect.reference.keyword ++ beforeKey ++ key ++ afterKey ++
      suffix modifiers ++ ['}']

/-- The rules of spelling.  A `$` in a reference could start a secret, so there is none. -/
def Sound : Spelling → Prop
  | secret lead beforePath path afterPath beforeKey key afterKey modifiers =>
    (∀ gap ∈ [lead, beforePath, afterPath, beforeKey, afterKey], ∀ c ∈ gap, Text.isBlank c) ∧
      IsName ['@', '}', '|'] path ∧ IsName ['}', '|'] key ∧ ∀ m ∈ modifiers, '}' ∉ m
  | reference lead beforeKey key afterKey modifiers =>
    (∀ gap ∈ [lead, beforeKey, afterKey], ∀ c ∈ gap, Text.isBlank c) ∧
      IsName ['}', '|', '$'] key ∧ ∀ m ∈ modifiers, '}' ∉ m ∧ '$' ∉ m

/-- The placeholder that is spelled. -/
def placeholder (s : Spelling) : Placeholder :=
  { target := s.target, modifiers := suffix s.modifiers, text := s.text }

theorem dialect_target (s : Spelling) : s.target.dialect = s.dialect := by
  cases s <;> rfl

theorem suffix_bar (m : Option Text) : suffix m = [] ∨ ∃ more, suffix m = '|' :: more := by
  cases m with
  | none => exact Or.inl rfl
  | some m => exact Or.inr ⟨m, rfl⟩

theorem not_mem_suffix {c : Char} (hc : c ≠ '|') {m : Option Text} (h : ∀ t ∈ m, c ∉ t) :
    c ∉ suffix m := by
  cases m with
  | none => exact List.not_mem_nil
  | some m => simpa [suffix, hc] using h m rfl

/-- A character that is not white space is in no gap. -/
theorem not_mem_of_blank {gap : Text} (hgap : ∀ c ∈ gap, Text.isBlank c) {c : Char}
    (hc : Text.isBlank c = false) : c ∉ gap := by
  intro hmem
  simp [hgap c hmem] at hc

/-- A name with white space around it holds none of the excluded characters. -/
theorem not_mem_padded {stops name before after : Text} (h : IsName stops name)
    (hbefore : ∀ c ∈ before, Text.isBlank c) (hafter : ∀ c ∈ after, Text.isBlank c) {c : Char}
    (hstop : c ∈ stops) (hc : Text.isBlank c = false) : c ∉ before ++ name ++ after := by
  have hname : c ∉ name := fun hmem => h.noStop c hmem hstop
  simp [hname, not_mem_of_blank hbefore hc, not_mem_of_blank hafter hc]

theorem trim_padded_name {stops name before after : Text} (h : IsName stops name)
    (hbefore : ∀ c ∈ before, Text.isBlank c) (hafter : ∀ c ∈ after, Text.isBlank c) :
    Text.trim (before ++ name ++ after) = name := by
  rw [Text.trim_padded hbefore hafter, h.trimmed]

/-- A reference is written as a placeholder even if there is a `$` in it. -/
theorem written_reference {lead beforeKey key afterKey : Text} {modifiers : Option Text}
    (hlead : ∀ c ∈ lead, Text.isBlank c) (hbefore : ∀ c ∈ beforeKey, Text.isBlank c)
    (hafter : ∀ c ∈ afterKey, Text.isBlank c) (hkey : IsName ['}', '|'] key)
    (hmod : ∀ m ∈ modifiers, '}' ∉ m) :
    Written .reference (reference lead beforeKey key afterKey modifiers).text (.setting key)
      (suffix modifiers) := by
  have htrim := trim_padded_name hkey hbefore hafter
  have hnames : Names (beforeKey ++ key ++ afterKey) (.setting key) := by
    have hnames := Names.setting (by rw [htrim]; exact hkey.ne_nil)
    rwa [htrim] at hnames
  have hbar : '|' ∉ beforeKey ++ key ++ afterKey :=
    not_mem_padded hkey hbefore hafter (by decide) (by decide)
  have hbrace : '}' ∉ beforeKey ++ key ++ afterKey ++ suffix modifiers := by
    intro hmem
    rcases List.mem_append.mp hmem with hmem | hmem
    · exact not_mem_padded hkey hbefore hafter (by decide) (by decide) hmem
    · exact not_mem_suffix (by decide) hmod hmem
  have hwritten := Written.intro (d := .reference) hlead hbrace hbar (suffix_bar modifiers) hnames rfl
  simpa only [text, List.append_assoc] using hwritten

/-- What is spelled soundly is written as a placeholder. -/
theorem written {s : Spelling} (h : s.Sound) :
    Written s.dialect s.text s.target (suffix s.modifiers) := by
  cases s with
  | reference lead beforeKey key afterKey modifiers =>
    obtain ⟨hgaps, hkey, hmod⟩ := h
    simp only [List.forall_mem_cons] at hgaps
    obtain ⟨hlead, hbefore, hafter, -⟩ := hgaps
    exact written_reference hlead hbefore hafter (hkey.mono (by simp)) fun m hm => (hmod m hm).1
  | secret lead beforePath path afterPath beforeKey key afterKey modifiers =>
    obtain ⟨hgaps, hpath, hkey, hmod⟩ := h
    simp only [List.forall_mem_cons] at hgaps
    obtain ⟨hlead, hbeforePath, hafterPath, hbeforeKey, hafterKey, -⟩ := hgaps
    have htrimPath := trim_padded_name hpath hbeforePath hafterPath
    have htrimKey := trim_padded_name hkey hbeforeKey hafterKey
    have hout : ∀ c ∈ ['}', '|'], Text.isBlank c = false → c ≠ '@' →
        c ∉ beforePath ++ path ++ afterPath ++ '@' :: (beforeKey ++ key ++ afterKey) := by
      intro c hc hblank hat hmem
      rcases List.mem_append.mp hmem with hmem | hmem
      · exact not_mem_padded hpath hbeforePath hafterPath (List.mem_cons_of_mem _ hc) hblank hmem
      · rcases List.mem_cons.mp hmem with hmem | hmem
        · exact hat hmem
        · exact not_mem_padded hkey hbeforeKey hafterKey hc hblank hmem
    have hwritten := Written.intro (d := .secret) hlead
      (by
        intro hmem
        rcases List.mem_append.mp hmem with hmem | hmem
        · exact hout '}' (by decide) (by decide) (by decide) hmem
        · exact not_mem_suffix (by decide) hmod hmem)
      (hout '|' (by decide) (by decide) (by decide)) (suffix_bar modifiers)
      (.secret (not_mem_padded hpath hbeforePath hafterPath (by decide) (by decide))
        (by rw [htrimPath]; exact hpath.ne_nil) (by rw [htrimKey]; exact hkey.ne_nil)) rfl
    rw [htrimPath, htrimKey] at hwritten
    show Written .secret _ (.secret path key) (suffix modifiers)
    simpa only [text, List.append_assoc, List.singleton_append, List.cons_append,
      List.nil_append] using hwritten

theorem opens?_text {s : Spelling} (h : s.Sound) (rest : Text) :
    s.dialect.opens? (s.text ++ rest) = some s.placeholder :=
  Dialect.opens?_written (written h) rest

end Spelling

namespace Dialect

variable {d d' : Dialect}

theorem opens?_of_ne_dollar (d : Dialect) {c : Char} (hc : c ≠ '$') (t : Text) :
    d.opens? (c :: t) = none := by
  by_contra hsome
  obtain ⟨p, hp⟩ := Option.ne_none_iff_exists'.mp hsome
  obtain ⟨rest, htext, hwritten⟩ := opens?_eq_some_iff.mp hp
  obtain ⟨more, hmore⟩ := hwritten.exists_cons
  rw [hmore, List.cons_append, List.cons.injEq] at htext
  exact hc htext.1

theorem noStart_of_no_dollar (d : Dialect) {t : Text} (ht : '$' ∉ t) (rest : Text) :
    d.NoStart t rest := by
  induction t with
  | nil => exact noStart_nil d rest
  | cons c t ih =>
    rw [List.mem_cons, not_or] at ht
    exact noStart_cons.mpr ⟨opens?_of_ne_dollar d (Ne.symm ht.1) _, ih ht.2⟩

theorem noStart_append {t u rest : Text} :
    d.NoStart (t ++ u) rest ↔ d.NoStart t (u ++ rest) ∧ d.NoStart u rest := by
  induction t with
  | nil => simp [noStart_nil]
  | cons c t ih => rw [List.cons_append, noStart_cons, noStart_cons, ih, and_assoc,
      List.cons_append, List.cons_append, List.append_assoc]

/-- A text starts with a placeholder of one dialect at most. -/
theorem eq_of_afterKeyword? {t rest rest' : Text} (h : d.afterKeyword? t = some rest)
    (h' : d'.afterKeyword? t = some rest') : d = d' := by
  obtain ⟨inner, hinner, hrest⟩ := Option.bind_eq_some_iff.mp h
  obtain ⟨inner', hinner', hrest'⟩ := Option.bind_eq_some_iff.mp h'
  obtain rfl : inner = inner' := Option.some.inj (hinner.symm.trans hinner')
  rw [afterLead?_eq_some_iff] at hrest hrest'
  -- The keywords differ in their first character.
  have hhead := congrArg List.head? (hrest.symm.trans hrest')
  cases d <;> cases d'
  · rfl
  · exact absurd hhead (fun h : some 's' = some 'r' => by simp at h)
  · exact absurd hhead (fun h : some 'r' = some 's' => by simp at h)
  · rfl

theorem afterKeyword?_of_opens? {t : Text} {p : Placeholder} (h : d.opens? t = some p) :
    ∃ rest, d.afterKeyword? t = some rest := by
  obtain ⟨r, hr, -⟩ := Option.map_eq_some_iff.mp h
  rw [match?_shape] at hr
  obtain ⟨rest, hrest, -⟩ := Option.bind_eq_some_iff.mp hr
  exact ⟨rest, hrest⟩

theorem opens?_of_other_dialect (hne : d' ≠ d) {t : Text} {p : Placeholder}
    (h : d.opens? t = some p) : d'.opens? t = none := by
  by_contra hsome
  obtain ⟨p', hp'⟩ := Option.ne_none_iff_exists'.mp hsome
  obtain ⟨rest, hrest⟩ := afterKeyword?_of_opens? h
  obtain ⟨rest', hrest'⟩ := afterKeyword?_of_opens? hp'
  exact hne (eq_of_afterKeyword? hrest' hrest)

end Dialect

namespace Spelling

/-- The only `$` of a reference is the one it starts with. -/
theorem exists_text_eq_cons {s : Spelling} (h : s.Sound) (hd : s.dialect = .reference) :
    ∃ more, s.text = '$' :: more ∧ '$' ∉ more := by
  cases s with
  | secret => contradiction
  | reference lead beforeKey key afterKey modifiers =>
    obtain ⟨hgaps, hkey, hmod⟩ := h
    simp only [List.forall_mem_cons] at hgaps
    obtain ⟨hlead, hbefore, hafter, -⟩ := hgaps
    have hblank : Text.isBlank '$' = false := by decide
    have hkeyword : '$' ∉ Dialect.reference.keyword := by decide
    have hpadded := not_mem_padded hkey hbefore hafter (by decide) hblank
    have hsuffix : '$' ∉ suffix modifiers := not_mem_suffix (by decide) fun m hm => (hmod m hm).2
    refine ⟨_, rfl, ?_⟩
    simp only [List.mem_append, not_or, List.append_eq] at hpadded ⊢
    obtain ⟨⟨hbefore, hkey⟩, hafter⟩ := hpadded
    simp [not_mem_of_blank hlead hblank, hkeyword, hbefore, hkey, hafter, hsuffix]

/-- No secret starts inside a reference. -/
theorem noStart_secret {s : Spelling} (h : s.Sound) (hd : s.dialect = .reference) (rest : Text) :
    Dialect.secret.NoStart s.text rest := by
  have hopen := opens?_text h rest
  rw [hd] at hopen
  obtain ⟨more, htext, hmore⟩ := exists_text_eq_cons h hd
  rw [htext] at hopen ⊢
  exact Dialect.noStart_cons.mpr
    ⟨Dialect.opens?_of_other_dialect (by decide) hopen, Dialect.noStart_of_no_dollar _ hmore rest⟩

end Spelling

namespace Template

/-- A line of literal texts and spellings is cut into just these. -/
theorem ofLine_fill {d : Dialect} {tail : Text} (parts : List (Text × Spelling))
    (hliteral : ∀ part ∈ parts, '$' ∉ part.1)
    (hsound : ∀ part ∈ parts, part.2.Sound ∧ part.2.dialect = d) (htail : '$' ∉ tail) :
    ofLine d (fill (parts.map fun part => (part.1, part.2.text)) tail) =
      { holes := parts.map fun part => (part.1, part.2.placeholder), tail } := by
  induction parts with
  | nil => exact ofLine_of_noStart (Dialect.noStart_of_no_dollar d htail [])
  | cons part parts ih =>
    obtain ⟨before, s⟩ := part
    obtain ⟨hbefore, hliteral⟩ := List.forall_mem_cons.mp hliteral
    obtain ⟨⟨hs, rfl⟩, hsound⟩ := List.forall_mem_cons.mp hsound
    simp only [List.map_cons, fill, List.append_assoc]
    have hcut := ofLine_of_opens (p := s.placeholder) (Dialect.noStart_of_no_dollar _ hbefore _)
      (Spelling.opens?_text hs (fill (parts.map fun part => (part.1, part.2.text)) tail))
    rw [ih hliteral hsound] at hcut
    exact hcut

/-- A line of literal texts and references holds no secret. -/
theorem noStart_secret_fill {tail : Text} (parts : List (Text × Spelling))
    (hliteral : ∀ part ∈ parts, '$' ∉ part.1)
    (hsound : ∀ part ∈ parts, part.2.Sound ∧ part.2.dialect = .reference) (htail : '$' ∉ tail) :
    Dialect.secret.NoStart (fill (parts.map fun part => (part.1, part.2.text)) tail) [] := by
  induction parts with
  | nil => exact Dialect.noStart_of_no_dollar _ htail []
  | cons part parts ih =>
    obtain ⟨hbefore, hliteral⟩ := List.forall_mem_cons.mp hliteral
    obtain ⟨⟨hs, hd⟩, hsound⟩ := List.forall_mem_cons.mp hsound
    simp only [List.map_cons, fill]
    rw [Dialect.noStart_append, Dialect.noStart_append]
    exact ⟨⟨Dialect.noStart_of_no_dollar _ hbefore _, Spelling.noStart_secret hs hd _⟩,
      ih hliteral hsound⟩

end Template

end Infill
