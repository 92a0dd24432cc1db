import Explainer.Json.Path
import Explainer.Json.Writer
import Explainer.Event

/-!
# Error records

A record is a JSON object that says which kind of error occurred, in its `type` member, and
carries whatever else the messages about that kind speak of. The kind is fixed when the record is
made: no later member overwrites it.
-/

namespace Explainer

/-- The member that names the kind of error. -/
def typeField : Text := "type".toList

/-- An error as a parser reports it. -/
structure ErrorRecord where
  /-- The kind of error. -/
  kind : Text
  /-- The whole record. -/
  value : Json
deriving Repr

/-- Why a value is no error record. -/
inductive RecordError where
  | notAnObject
  | missingType
  | typeNotString (found : Json)
  /-- The text is no JSON value. -/
  | malformed
deriving Repr

/-- The wording of a record error, where this library owns it. -/
def RecordError.message? : RecordError → Option String
  | notAnObject => some "error record must be a JSON object"
  | missingType => some "error record has no `type` field"
  | typeNotString v =>
    some ("error record `type` must be a string, found " ++ String.ofList v.text)
  | malformed => none

namespace ErrorRecord

/-- The record of an error kind, without further members. -/
def ofKind (kind : Text) : ErrorRecord := ⟨kind, .obj [(typeField, .str kind)]⟩

/-- Sets a member. The member that names the kind stays as it is. -/
def withField (r : ErrorRecord) (key : Text) (value : Json) : ErrorRecord :=
  if key = typeField then r
  else match r.value with
    | .obj members => ⟨r.kind, .obj (Members.insert key value members)⟩
    | _ => r

/-- What setting a member reports: an attempt to change the kind. -/
def withFieldEvents (r : ErrorRecord) (key : Text) : List Event :=
  if key = typeField then [.typeOverwriteIgnored r.kind] else []

def ofValue (v : Json) : Except RecordError ErrorRecord :=
  match v with
  | .obj members =>
    match Members.find? typeField members with
    | none => .error .missingType
    | some (.str kind) => .ok ⟨kind, v⟩
    | some other => .error (.typeNotString other)
  | _ => .error .notAnObject

/-- The record that a text is, given how JSON is read. -/
def parse (read : Text → Option Json) (s : Text) : Except RecordError ErrorRecord :=
  match read s with
  | none => .error .malformed
  | some v => ofValue v

/-- The record in a stored form, from the value that the reader of the form finds in it, if it
finds one. Every failure is one of the form. -/
def ofRead? (found : Option Json) : Option ErrorRecord := found.bind fun v => (ofValue v).toOption

/-- The part of the record at a dotted path. -/
def lookup? (r : ErrorRecord) (path : Text) : Option Json := r.value.lookup? path

end ErrorRecord

end Explainer
