import Infill.Proofs.Answer
import Infill.Proofs.Json.Reading
import Infill.Proofs.Line
import Mathlib.Data.List.Nodup

/-!
# Fields come out as they are

The fields of a secret are strings in a JSON document.  Whatever is in them, and in whatever way it
is escaped, reading a field gives the string, and so does a line that is nothing but the placeholder
of the field (`fields_come_out_as_they_are`).
-/

namespace Infill

namespace Json

section Members

variable {name : Text} {members : List (Text × Json)}

/-- A value that is put under a name is the one that is found there. -/
theorem lookUp_insert (name other : Text) (value : Json) (members : List (Text × Json)) :
    lookUp name (insert other value members) =
      if other = name then some value else lookUp name members := by
  induction members with
  | nil =>
    by_cases hname : other = name
    · simp [insert, lookUp, hname]
    · simp [insert, lookUp, hname]
  | cons m members ih =>
    obtain ⟨mine, v⟩ := m
    rw [insert]
    split
    · by_cases hname : other = name
      · simp [lookUp, hname]
      · simp [lookUp, hname]
    · split
      · next hother =>
        subst hother
        by_cases hname : other = name
        · simp [lookUp, hname]
        · simp [lookUp, hname]
      · next hother =>
        by_cases hmine : mine = name
        · have hname : other ≠ name := by
            rintro rfl
            exact hother hmine.symm
          simp [lookUp, hmine, hname]
        · have hskip : ∀ ms, lookUp name ((mine, v) :: ms) = lookUp name ms := by
            intro ms
            simp [lookUp, hmine]
          rw [hskip, hskip, ih]

/-- Of several members with one name the last is the one that is found. -/
theorem member?_ofMembers (name : Text) (members : List (Text × Json)) :
    (ofMembers members).member? name = lookUp name members.reverse := by
  show lookUp name (members.foldl (fun found m => insert m.1 m.2 found) []) = _
  induction members using List.reverseRecOn with
  | nil => rfl
  | append_singleton members m ih =>
    rw [List.foldl_append, List.foldl_cons, List.foldl_nil, lookUp_insert, ih,
      List.reverse_append, List.reverse_singleton, List.singleton_append]
    by_cases hname : m.1 = name
    · simp [lookUp, hname]
    · simp [lookUp, hname]

theorem lookUp_of_mem {value : Json} (hdistinct : (members.map Prod.fst).Nodup)
    (h : (name, value) ∈ members) : lookUp name members = some value := by
  induction members with
  | nil => contradiction
  | cons m members ih =>
    obtain ⟨hfresh, hdistinct⟩ := List.nodup_cons.mp hdistinct
    rcases List.mem_cons.mp h with rfl | h
    · simp [lookUp]
    · have hother : m.1 ≠ name := by
        rintro rfl
        exact hfresh (List.mem_map.mpr ⟨_, h, rfl⟩)
      have hskip : lookUp name (m :: members) = lookUp name members := by
        simp [lookUp, hother]
      rw [hskip, ih hdistinct h]

theorem lookUp_of_not_mem (h : name ∉ members.map Prod.fst) : lookUp name members = none := by
  rw [lookUp, Option.map_eq_none_iff, List.find?_eq_none]
  intro m hm hname
  apply h
  rw [← eq_of_beq hname]
  exact List.mem_map_of_mem hm

end Members

end Json

namespace Secret

/-- The document `{"data":{"data":FIELDS,"metadata":METADATA}}` of a secret. -/
def document (fields : List (Text × Text)) (metadata : Json) : Json :=
  .ofMembers
    [("data".toList, .ofMembers
      [("data".toList, .ofMembers (fields.map fun f => (f.1, .string f.2))),
        ("metadata".toList, metadata)])]

section Documents

variable {fields : List (Text × Text)} {metadata : Json} {key value : Text}

/-- The fields of a document are found in it. -/
theorem fields?_document (fields : List (Text × Text)) (metadata : Json) :
    ∃ members, fields? (document fields metadata) = some members ∧ ∀ key,
      Json.lookUp key members =
        Json.lookUp key (fields.map fun f => (f.1, Json.string f.2)).reverse := by
  let inner : Json := .ofMembers (fields.map fun f => (f.1, .string f.2))
  let outer : Json := .ofMembers [("data".toList, inner), ("metadata".toList, metadata)]
  have houter : (document fields metadata).member? "data".toList = some outer :=
    Json.member?_ofMembers _ _
  have hinner : outer.member? "data".toList = some inner := Json.member?_ofMembers _ _
  refine ⟨_, ?_, fun key => Json.member?_ofMembers key _⟩
  rw [fields?, houter, Option.bind_some, hinner]
  rfl

theorem lookUp_fields (hdistinct : (fields.map Prod.fst).Nodup) (h : (key, value) ∈ fields) :
    Json.lookUp key (fields.map fun f => (f.1, Json.string f.2)).reverse =
      some (.string value) := by
  apply Json.lookUp_of_mem
  · rw [List.map_reverse, List.nodup_reverse, List.map_map]
    exact hdistinct
  · rw [List.mem_reverse]
    exact List.mem_map_of_mem h

theorem lookUp_no_field (h : key ∉ fields.map Prod.fst) :
    Json.lookUp key (fields.map fun f => (f.1, Json.string f.2)).reverse = none := by
  apply Json.lookUp_of_not_mem
  rw [List.map_reverse, List.mem_reverse, List.map_map]
  exact h

/-- Fields as they are written in a document. -/
def writtenFields (fields : List (Text × Text)) : List Json.WrittenMember :=
  fields.map fun f =>
    { nameText := Json.stringText f.1, name := f.1, valueText := Json.stringText f.2,
      value := .string f.2 }

theorem membersText_fields (fields : List (Text × Text)) :
    Json.membersText (fields.map fun f => (f.1, Json.string f.2)) =
      Text.join [','] ((writtenFields fields).map Json.WrittenMember.text) := by
  rw [Json.membersText_eq_join, writtenFields, List.map_map, List.map_map]
  rfl

theorem isText_fields (depth : Nat) (fields : List (Text × Text)) :
    Json.IsText (depth + 1) (Json.text (.object (fields.map fun f => (f.1, .string f.2))))
      (.ofMembers (fields.map fun f => (f.1, .string f.2))) := by
  have hnames : ∀ m ∈ writtenFields fields, Json.IsStringText m.nameText m.name := by
    intro m hm
    obtain ⟨f, -, rfl⟩ := List.mem_map.mp hm
    exact Json.isStringText_stringText f.1
  have hvalues : ∀ m ∈ writtenFields fields, Json.IsText depth m.valueText m.value := by
    intro m hm
    obtain ⟨f, -, rfl⟩ := List.mem_map.mp hm
    exact .string (Json.isStringText_stringText f.2)
  have hwritten := Json.IsText.object hnames hvalues
  have hmembers : (writtenFields fields).map (fun m => (m.name, m.value)) =
      fields.map fun f => (f.1, .string f.2) := List.map_map
  rw [hmembers, ← membersText_fields] at hwritten
  exact hwritten

/-- A document is written as its fields and its metadata are, with the braces and names around
them. -/
theorem isText_document {depth : Nat} {t : Text} (fields : List (Text × Text))
    (h : Json.IsText (depth + 1) t metadata) :
    Json.IsText (depth + 3)
      ("\x7b\"data\":\x7b\"data\":".toList ++
        (Json.text (.object (fields.map fun f => (f.1, .string f.2))) ++
          (",\"metadata\":".toList ++ t ++ "\x7d\x7d".toList))) (document fields metadata) := by
  have hname : ∀ name : Text, Json.IsStringText (Json.stringText name) name :=
    Json.isStringText_stringText
  have hfields := isText_fields depth fields
  have hinner := @Json.IsText.object (depth + 1)
    [⟨Json.stringText "data".toList, "data".toList, _, _⟩,
      ⟨Json.stringText "metadata".toList, "metadata".toList, _, _⟩]
    (by simp [hname]) (by simpa using ⟨hfields, h⟩)
  have houter := @Json.IsText.object (depth + 2)
    [⟨Json.stringText "data".toList, "data".toList, _, _⟩]
    (by simp [hname]) (by simpa using hinner)
  have htext : ∀ F : Text, "\x7b\"data\":\x7b\"data\":".toList ++
      (F ++ (",\"metadata\":".toList ++ t ++ "\x7d\x7d".toList)) =
        '{' :: (Text.join [','] [Json.stringText "data".toList ++ ':' ::
          ('{' :: (Text.join [','] [Json.stringText "data".toList ++ ':' :: F,
            Json.stringText "metadata".toList ++ ':' :: t] ++ ['}']))] ++ ['}']) := by
    intro F
    simp only [Text.join, List.append_assoc, List.cons_append]
    rfl
  rw [htext]
  exact houter

end Documents

end Secret

section Lines

/-- The line that is nothing but the placeholder of a field. -/
def fieldLine (path key : Text) : Text :=
  ['$', '{', ' '] ++ Dialect.secret.keyword ++ path ++ ['@'] ++ key ++ [' ', '}']

variable {site : Site} {cache : Cache} {s : Session} {path key body : Text} {status : Nat}
  {fields : List (Text × Text)} {metadata : Json}

theorem processLine_fieldLine [Pattern.Limit] (hpath : IsName ['@', '}', '|'] path)
    (hkey : IsName ['}', '|'] key) {value : Text} (hvalue : Value site cache (.secret path key) value) :
    (processLine (fieldLine path key) site cache).result = .ok value := by
  let part : Part :=
    { before := [], spelling := .secret [' '] [] path [] [] key [' '] none,
      value := .ok value }
  have hgaps : ∀ gap ∈ [[' '], [], [], [], [' ']], ∀ c ∈ gap, Text.isBlank c := by
    simp [Text.isBlank]
  have hfits : part.Fits .secret site cache :=
    ⟨List.not_mem_nil, ⟨hgaps, hpath, hkey, by simp⟩, rfl, .value hvalue⟩
  have hline : fieldLine path key = spelledLine [part] [] := by
    simp [fieldLine, spelledLine, Template.fill, part, Spelling.text, Spelling.suffix]
  have hfilled : filledLine [part] [] = .ok value := by
    show Except.ok ([] ++ value ++ []) = Except.ok value
    rw [List.nil_append, List.append_nil]
  rw [hline, processLine_secretParts rfl (by simpa using hfits) List.not_mem_nil, hfilled]
  rfl

/-- Reading a field goes by the fields of the document that the store answers with. -/
theorem readField_of_document (site : Site) (cache : Cache) (hhost : Secret.IsBase s.host)
    (hstatus : Secret.IsSuccess status)
    (hbody : Json.IsText Json.depthLimit body (Secret.document fields metadata))
    (hanswer : ∀ r, Secret.request s path = .ok r → site.world.answer r = .ok { status, body })
    (key : Text) :
    (readField s path key site cache).result = (Secret.fieldText key
      (Json.lookUp key (fields.map fun f => (f.1, Json.string f.2)).reverse)).mapError .failure := by
  obtain ⟨r, hrequest⟩ := Secret.request_eq_ok_iff.mpr hhost
  have hdocuments : Secret.Documents site.world.answer s path (Secret.document fields metadata) :=
    ⟨_, ⟨r, hrequest, hanswer r hrequest⟩, hstatus, Json.parse_of_isText hbody⟩
  obtain ⟨members, hmembers, hlookUp⟩ := Secret.fields?_document fields metadata
  rw [readField_apply, ← hlookUp]
  exact congrArg (Except.mapError Stop.failure) (Secret.read_of_fields hdocuments hmembers key)

/-- The fields of a secret come out as they are, and another name is not found.  A line that is
nothing but the placeholder of a field comes to the field, and to nothing if there is none. -/
theorem fields_come_out_as_they_are [Pattern.Limit] (site : Site) (cache : Cache)
    (hhost : Secret.IsBase s.host) (hstatus : Secret.IsSuccess status)
    (hbody : Json.IsText Json.depthLimit body (Secret.document fields metadata))
    (hdistinct : (fields.map Prod.fst).Nodup)
    (hanswer : ∀ r, Secret.request s path = .ok r → site.world.answer r = .ok { status, body }) :
    (∀ key value, (key, value) ∈ fields → (readField s path key site cache).result = .ok value) ∧
    (∀ key, key ∉ fields.map Prod.fst →
      (readField s path key site cache).result = .error (.failure (Secret.withoutField key))) ∧
    (Session.AtHand site cache s → IsName ['@', '}', '|'] path → ∀ key, IsName ['}', '|'] key →
      (∀ value, (key, value) ∈ fields →
        (processLine (fieldLine path key) site cache).result = .ok value) ∧
      (key ∉ fields.map Prod.fst →
        (processLine (fieldLine path key) site cache).result = .ok [])) := by
  have hread := readField_of_document site cache hhost hstatus hbody hanswer
  have hfound : ∀ key value, (key, value) ∈ fields →
      (readField s path key site cache).result = .ok value := by
    intro key value hfield
    rw [hread, Secret.lookUp_fields hdistinct hfield]
    rfl
  have hmissing : ∀ key, key ∉ fields.map Prod.fst →
      (readField s path key site cache).result = .error (.failure (Secret.withoutField key)) := by
    intro key hkey
    rw [hread, Secret.lookUp_no_field hkey]
    rfl
  refine ⟨hfound, hmissing, ?_⟩
  intro hhand hpath key hkey
  have hsession := Session.atHand_iff.mp hhand
  constructor
  · intro value hfield
    apply processLine_fieldLine hpath hkey
    exact .field hsession (hfound key value hfield)
  · intro hnone
    apply processLine_fieldLine hpath hkey
    exact .missing hsession (hmissing key hnone) rfl

open scoped Pattern.Estimate in
/-- A field with quotes, a line feed, a control character, a character of two units and the text of
a placeholder. -/
theorem fields_come_out_as_they_are_escaped :
    (processLine "$\x7b secret:p@k \x7d".toList
      { world :=
          { disk := { wording := fun _ _ _ => [] }, environment := [],
            answer := fun _ => .ok
              { status := 204,
                body :=
                  "\x7b\"data\":\x7b\"data\":\x7b\"k\":".toList ++
                    "\"a\\\"\\\\\\n\\u0001😀$\x7bref:K\x7d\"".toList ++
                    "\x7d,\"metadata\":\x7b\x7d\x7d\x7d".toList } },
        settingsPath := { text := [] } }
      { session := some { host := "http://[::1]".toList, token := ['t'] } }).result =
      .ok "a\"\\\n\x01😀$\x7bref:K\x7d".toList := by
  let fields : List (Text × Text) := [(['k'], "a\"\\\n\x01😀$\x7bref:K\x7d".toList)]
  let body : Text := "\x7b\"data\":\x7b\"data\":\x7b\"k\":".toList ++
    "\"a\\\"\\\\\\n\\u0001😀$\x7bref:K\x7d\"".toList ++
    "\x7d,\"metadata\":\x7b\x7d\x7d\x7d".toList
  let s : Session := { host := "http://[::1]".toList, token := ['t'] }
  let site : Site :=
    { world :=
        { disk := { wording := fun _ _ _ => [] }, environment := [],
          answer := fun _ => .ok { status := 204, body } },
      settingsPath := { text := [] } }
  have hhost : Secret.IsBase s.host := ⟨_, _, rfl, rfl⟩
  have hstatus : Secret.IsSuccess 204 := ⟨by decide, by decide⟩
  have hmetadata : Json.IsText (124 + 1) "\x7b\x7d".toList (.ofMembers []) :=
    @Json.IsText.object 124 [] (by simp) (by simp)
  have hbody : Json.IsText Json.depthLimit body (Secret.document fields (.ofMembers [])) := by
    have hwritten := Secret.isText_document fields hmetadata
    have htext : "\x7b\"data\":\x7b\"data\":".toList ++
        (Json.text (.object (fields.map fun f => (f.1, .string f.2))) ++
          (",\"metadata\":".toList ++ "\x7b\x7d".toList ++ "\x7d\x7d".toList)) = body := by
      decide +kernel
    rwa [htext] at hwritten
  have hpath : IsName ['@', '}', '|'] ['p'] := ⟨by decide, by decide, by simp⟩
  have hkey : IsName ['}', '|'] ['k'] := ⟨by decide, by decide, by simp⟩
  have hline : "$\x7b secret:p@k \x7d".toList = fieldLine ['p'] ['k'] := by decide +kernel
  rw [hline]
  exact ((fields_come_out_as_they_are site { session := some s } hhost hstatus hbody (by decide)
    fun r _ => rfl).2.2 (.held rfl) hpath ['k'] hkey).1 _ List.mem_cons_self

end Lines

end Infill
