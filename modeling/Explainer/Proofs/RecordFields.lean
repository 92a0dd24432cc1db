import Explainer.Json.Reader
import Explainer.Proofs.Entries
import Explainer.Record
import Mathlib.Data.List.Induction

/-!
# A record keeps its kind

A record tells its kind twice, on its own and in the `type` member of its
object, and whoever reads the object again takes the kind from there. The two
agree at the start, because every record is read from a value in one way or
another (`Origin.record?_eq`), and they agree from then on, because setting a
field leaves both alone. So the invariant can be put in the words of the
reader: reading the value of a record gives the record back
(`Consistent.ofValue_value`).

All other members are those of a finite map under a sequence of updates: the
last one for a key counts, and where there is none the key has what it had.
-/

namespace Explainer

namespace ErrorRecord

/-! ## From values to records -/

/-- The record that a value is, or why it is none. -/
inductive Decides : Json → Except RecordError ErrorRecord → Prop
  | notAnObject {v : Json} (h : ∀ members, v ≠ .obj members) : Decides v (.error .notAnObject)
  | missingType {members : Members Json} (h : typeField ∉ members.keys) :
      Decides (.obj members) (.error .missingType)
  | typeNotString {members : Members Json} {found : Json}
      (hfound : Members.find? typeField members = some found) (h : ∀ kind, found ≠ .str kind) :
      Decides (.obj members) (.error (.typeNotString found))
  | record {members : Members Json} {kind : Text}
      (h : Members.find? typeField members = some (.str kind)) :
      Decides (.obj members) (.ok ⟨kind, .obj members⟩)

theorem decides_ofValue (v : Json) : Decides v (ofValue v) := by
  cases v with
  | obj members =>
      rw [ofValue]
      split
      · next hnone => exact .missingType (Members.find?_eq_none_iff.mp hnone)
      · next kind hkind => exact .record hkind
      · next found hne hfound => exact .typeNotString hfound hne
  | null | bool _ | num _ | str _ | arr _ => exact .notAnObject nofun

theorem Decides.ofValue_eq {v : Json} {answer : Except RecordError ErrorRecord}
    (h : Decides v answer) : ofValue v = answer := by
  cases h with
  | notAnObject h =>
      cases v with
      | obj members => exact absurd rfl (h members)
      | null | bool _ | num _ | str _ | arr _ => rfl
  | missingType h => rw [ofValue, Members.find?_eq_none_iff.mpr h]
  | typeNotString hfound h =>
      rw [ofValue, hfound]
      split
      · next heq => cases heq
      · next kind heq => exact absurd (Option.some.inj heq) (h kind)
      · next found' _ heq => rw [Option.some.inj heq]
  | record h => rw [ofValue, h]

/-- Every value is decided in one way only. -/
theorem ofValue_eq_iff {v : Json} {answer : Except RecordError ErrorRecord} :
    ofValue v = answer ↔ Decides v answer :=
  ⟨fun h => h ▸ decides_ofValue v, Decides.ofValue_eq⟩

/-! ## Where records come from -/

/-- A way in which a record is made. -/
inductive Origin where
  | kind (kind : Text)
  | value (v : Json)
  /-- A text, with the reader of JSON that it is given to. -/
  | text (read : Text → Option Json) (s : Text)
  /-- A stored form, with the value that its reader finds in it, if it finds one. -/
  | stored (found : Option Json)

namespace Origin

/-- The record that is made, if one is. -/
def record? : Origin → Option ErrorRecord
  | kind k => some (.ofKind k)
  | value v => (ofValue v).toOption
  | text read s => (parse read s).toOption
  | stored found => ofRead? found

/-- The value that the record is made of, if there is one. -/
def value? : Origin → Option Json
  | kind k => some (.obj [(typeField, .str k)])
  | value v => some v
  | text read s => read s
  | stored found => found

theorem record?_eq (o : Origin) : o.record? = ofRead? o.value? := by
  cases o with
  | text read s =>
      rw [record?, parse, value?]
      cases read s <;> rfl
  | kind _ | value _ | stored _ => rfl

/-- A record is made if there is a value and it is a record. -/
theorem record?_eq_some_iff {o : Origin} {made : ErrorRecord} :
    o.record? = some made ↔ ∃ v, o.value? = some v ∧ Decides v (.ok made) := by
  rw [record?_eq, ofRead?, Option.bind_eq_some_iff]
  refine exists_congr fun v => and_congr_right fun _ => ?_
  rw [← ofValue_eq_iff]
  cases ofValue v with
  | error e => exact ⟨nofun, nofun⟩
  | ok r => exact ⟨fun h => congrArg _ (Option.some.inj h), fun h => congrArg _ (Except.ok.inj h)⟩

end Origin

/-! ## Setting fields -/

/-- The members of the object that the record is. -/
def members (r : ErrorRecord) : Members Json :=
  match r.value with
  | .obj members => members
  | _ => []

/-- The record after fields have been set, one after the other. -/
def withFields (r : ErrorRecord) (fields : List (Text × Json)) : ErrorRecord :=
  fields.foldl (fun r field => r.withField field.1 field.2) r

/-- The record is an object, whose `type` member says of which kind. -/
structure Consistent (r : ErrorRecord) : Prop where
  value_eq : r.value = .obj r.members
  find?_type : Members.find? typeField r.members = some (.str r.kind)

variable {made r : ErrorRecord} {fields : List (Text × Json)}

theorem Decides.consistent {v : Json} (h : Decides v (.ok r)) : r.Consistent := by
  cases h with
  | record hkind => exact ⟨rfl, hkind⟩

/-- What a record is converted to is read back as the record. -/
theorem Consistent.ofValue_value (h : r.Consistent) : ofValue r.value = .ok r := by
  have hdecides : Decides (.obj r.members) (.ok ⟨r.kind, .obj r.members⟩) := .record h.find?_type
  rw [← h.value_eq] at hdecides
  exact hdecides.ofValue_eq

/-- An attempt to change the kind changes nothing. -/
theorem withField_type (r : ErrorRecord) (value : Json) : r.withField typeField value = r := by
  rw [withField, if_pos rfl]

theorem Consistent.withField_of_ne (h : r.Consistent) {key : Text} (hkey : key ≠ typeField)
    (value : Json) : r.withField key value = ⟨r.kind, .obj (r.members.insert key value)⟩ := by
  rw [withField, if_neg hkey, h.value_eq]

theorem Consistent.withField (h : r.Consistent) (key : Text) (value : Json) :
    (r.withField key value).Consistent := by
  by_cases hkey : key = typeField
  · rw [hkey, withField_type]
    exact h
  · rw [h.withField_of_ne hkey]
    exact ⟨rfl, (Members.find?_insert_of_ne (Ne.symm hkey) value r.members).trans h.find?_type⟩

/-- What a record holds after fields have been set in the one that was made. -/
structure Keeps (made : ErrorRecord) (fields : List (Text × Json)) (r : ErrorRecord) : Prop where
  kind_eq : r.kind = made.kind
  consistent : r.Consistent
  /-- The value that was set last counts, and else the one that was there. -/
  find?_eq : ∀ key, key ≠ typeField → Members.find? key r.members
    = (Members.find? key fields.reverse).or (Members.find? key made.members)
  mem_keys_iff : ∀ key, key ∈ r.members.keys ↔ key ∈ made.members.keys ∨ key ∈ Members.keys fields
  ordered : made.members.Ordered → r.members.Ordered

theorem Consistent.keeps (h : r.Consistent) : r.Keeps [] r where
  kind_eq := rfl
  consistent := h
  find?_eq _ _ := rfl
  mem_keys_iff _ := (or_iff_left List.not_mem_nil).symm
  ordered := id

theorem Keeps.type_mem (h : made.Keeps fields r) :
    typeField ∈ made.members.keys ∨ typeField ∈ Members.keys fields :=
  (h.mem_keys_iff typeField).mp
    (Members.mem_keys_iff.mpr (Option.isSome_of_eq_some h.consistent.find?_type))

/-- One more field. -/
theorem Keeps.withField (h : made.Keeps fields r) (key : Text) (value : Json) :
    made.Keeps (fields ++ [(key, value)]) (r.withField key value) := by
  have hkeys (other : Text) :
      other ∈ Members.keys (fields ++ [(key, value)]) ↔
        other ∈ Members.keys fields ∨ other = key := by
    rw [Members.keys, List.map_append, List.mem_append, List.map_singleton, List.mem_singleton]
    rfl
  have hlast (other : Text) : Members.find? other (fields ++ [(key, value)]).reverse
      = if key = other then some value else Members.find? other fields.reverse := by
    rw [List.reverse_concat, Members.find?]
  by_cases hkey : key = typeField
  · subst hkey
    rw [withField_type]
    refine ⟨h.kind_eq, h.consistent, fun other hother => ?_, fun other => ?_, h.ordered⟩
    · rw [hlast, if_neg (Ne.symm hother)]
      exact h.find?_eq other hother
    · rw [h.mem_keys_iff, hkeys, ← or_assoc]
      refine (or_iff_left_of_imp ?_).symm
      rintro rfl
      exact h.type_mem
  · refine ⟨?_, h.consistent.withField key value, ?_, ?_, ?_⟩
    all_goals rw [h.consistent.withField_of_ne hkey]
    · exact h.kind_eq
    · intro other hother
      show Members.find? other (r.members.insert key value) = _
      rw [Members.find?_insert, hlast]
      by_cases heq : other = key
      · rw [if_pos heq, if_pos heq.symm, Option.some_or]
      · rw [if_neg heq, if_neg (Ne.symm heq)]
        exact h.find?_eq other hother
    · intro other
      show other ∈ (r.members.insert key value).keys ↔ _
      rw [Members.mem_keys_insert_iff, h.mem_keys_iff, hkeys, or_comm, or_assoc]
    · exact fun hmade => (h.ordered hmade).insert

theorem Consistent.keeps_withFields (h : made.Consistent) (fields : List (Text × Json)) :
    made.Keeps fields (made.withFields fields) := by
  induction fields using List.reverseRecOn with
  | nil => exact h.keeps
  | append_singleton fields field ih =>
      rw [withFields, List.foldl_concat]
      exact ih.withField field.1 field.2

/-- A record comes from a value that is one, whichever way it is made, and whatever is set in it
later it says of its kind what it said then, on its own and in its object. -/
theorem record_keeps_kind :
    (∀ v answer, ofValue v = answer ↔ Decides v answer) ∧
    (∀ (o : Origin) (made : ErrorRecord),
      o.record? = some made ↔ ∃ v, o.value? = some v ∧ Decides v (.ok made)) ∧
    ∀ (o : Origin) (made : ErrorRecord), o.record? = some made → ∀ fields,
      made.Keeps fields (made.withFields fields) ∧
        ofValue (made.withFields fields).value = .ok (made.withFields fields) := by
  refine ⟨fun v answer => ofValue_eq_iff, fun o made => Origin.record?_eq_some_iff, ?_⟩
  intro o made h fields
  obtain ⟨v, -, hv⟩ := Origin.record?_eq_some_iff.mp h
  have hkeeps := hv.consistent.keeps_withFields fields
  exact ⟨hkeeps, hkeeps.consistent.ofValue_value⟩

/-- Fields are set twice, and one of them would change the kind. -/
theorem record_keeps_kind_overwritten :
    let o : Origin := .text Json.parse? "\x7b\"type\":\"T\",\"n\":true,\"n\":false\x7d".toList
    let n : Text := "n".toList
    let fields := [(typeField, .null), (n, .bool true), ("m".toList, .null), (n, .str [])]
    ∃ made, o.record? = some made ∧ made.kind = "T".toList ∧
      Members.find? n made.members = some (.bool false) ∧
      Members.find? n (made.withFields fields).members = some (.str []) ∧
      ofValue (made.withFields fields).value = .ok (made.withFields fields) := by
  intro o n fields
  have hvalue : o.value? = some (.obj [(n, .bool false), (typeField, .str "T".toList)]) := by
    cbv
  have hmade := Origin.record?_eq_some_iff.mpr ⟨_, hvalue, @Decides.record _ "T".toList rfl⟩
  obtain ⟨hkeeps, hread⟩ := record_keeps_kind.2.2 o _ hmade fields
  exact ⟨_, hmade, rfl, rfl, hkeeps.find?_eq n (by decide), hread⟩

end ErrorRecord

end Explainer
