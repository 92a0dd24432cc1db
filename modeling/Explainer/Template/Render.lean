import Explainer.Event
import Explainer.Json.Path
import Explainer.Json.Writer
import Explainer.Template.Escape
import Explainer.Template.Tree

/-!
# Rendering

A tree is rendered against a value. Fields are looked up in the bindings of the loops around,
innermost first, and then in the value itself; what is found is shown as text and escaped. Field
values are never read as template text again.

A field that is missing is an error in strict rendering. Otherwise it is shown as nothing, and the
rendering carries a note of it.
-/

namespace Explainer

/-- Whether a value counts as holding: everything but null, false, zero and the empty text. -/
def Json.holds : Json → Bool
  | .null => false
  | .bool b => b
  | .num n => !n.isZero
  | .str s => !s.isEmpty
  | .arr _ | .obj _ => true

/-- A value as text for a reader: texts without quotes, null as nothing, all else as JSON. -/
def Json.display : Json → Text
  | .null => []
  | .str s => s
  | v => v.text

namespace Template

/-- Why a template could not be rendered. -/
inductive RenderError where
  /-- The template itself is wrong. -/
  | template (cause : TemplateError)
  /-- Strict rendering needs a field that the value does not have. -/
  | missingField (path : Text)
  /-- A loop ranges over something that is no list. -/
  | notIterable (path : Text)
deriving DecidableEq, Repr

def RenderError.message : RenderError → String
  | template e => e.message
  | missingField p =>
    "template field `" ++ String.ofList p ++ "` is missing from the error record"
  | notIterable p => "template field `" ++ String.ofList p ++ "` is not a list"

/-- The outcome of rendering: the text or the error, and the missing fields met on the way. -/
structure Rendering where
  missing : List Text
  result : Except RenderError Text

namespace Rendering

def text (s : Text) : Rendering := ⟨[], .ok s⟩

def empty : Rendering := text []

def fail (e : RenderError) : Rendering := ⟨[], .error e⟩

/-- One rendering after another; an error of the first is the error of both. -/
def append (a b : Rendering) : Rendering :=
  match a.result with
  | .error _ => a
  | .ok s => ⟨a.missing ++ b.missing, b.result.map (s ++ ·)⟩

instance : Append Rendering := ⟨append⟩

@[simp] theorem empty_append (r : Rendering) : empty ++ r = r := by
  show append empty r = r
  cases r with
  | mk missing result => cases result <;> rfl

theorem append_assoc (a b c : Rendering) : a ++ b ++ c = a ++ (b ++ c) := by
  show append (append a b) c = append a (append b c)
  obtain ⟨am, ar⟩ := a
  obtain ⟨bm, br⟩ := b
  obtain ⟨cm, cr⟩ := c
  cases ar <;> cases br <;> cases cr <;> simp [append, Except.map]

/-- What a rendering reports: the missing fields. -/
def events (r : Rendering) : List Event := r.missing.map .fieldMissing

end Rendering

/-- Where names are looked up: the value, and the bindings of the open loops, innermost first. -/
structure Scope where
  root : Json
  bindings : List (Text × Json)

namespace Scope

/-- The name that a loop binds beside its own: it tells the index of the item. -/
def loopName : Text := "loop".toList

/-- The scope of one round of a loop. -/
def enter (scope : Scope) (binder : Text) (index : Nat) (item : Json) : Scope :=
  { scope with bindings :=
      (binder, item) :: (loopName, .obj [("index".toList, .num (.int index))])
        :: scope.bindings }

/-- The first segment of a path. -/
def head (path : Text) : Text := path.takeWhile (· ≠ '.')

/-- What follows the first segment of a path and its dot. -/
def tail (path : Text) : Text := (path.dropWhile (· ≠ '.')).drop 1

/-- The value of a path: below the innermost binding of its first segment, if there is one, and
else below the root. -/
def resolve? (scope : Scope) (path : Text) : Option Json :=
  match Members.find? (head path) scope.bindings with
  | some v => v.lookup? (tail path)
  | none => scope.root.lookup? path

end Scope

/-- The items that a loop over a resolved field runs through. -/
def loopItems (strict : Bool) (path : Text) : Option Json → Except RenderError (List Json)
  | some (.arr items) => .ok items
  | some .null => .ok []
  | some _ => .error (.notIterable path)
  | none => if strict then .error (.missingField path) else .ok []

def renderField (strict : Bool) (path : Text) : Option Json → Rendering
  | some v => .text (Markup.escape v.display)
  | none => if strict then .fail (.missingField path) else ⟨[path], .ok []⟩

namespace Node

mutual

def render (strict : Bool) (scope : Scope) : Node → Rendering
  | .text t => .text t
  | .value path => renderField strict path (scope.resolve? path)
  | .branch negate path thenPart elsePart =>
    if (scope.resolve? path).any Json.holds != negate then renderAll strict scope thenPart
    else renderAll strict scope elsePart
  | .loop binder path body =>
    match loopItems strict path (scope.resolve? path) with
    | .error e => .fail e
    | .ok items =>
      items.zipIdx.foldr
        (fun (item, index) rest => renderAll strict (scope.enter binder index item) body ++ rest)
        .empty

/-- Renders nodes one after another. -/
def renderAll (strict : Bool) (scope : Scope) : List Node → Rendering
  | [] => .empty
  | n :: rest => render strict scope n ++ renderAll strict scope rest

end

end Node

/-- Renders a template against a value. -/
def render (strict : Bool) (delimiters : Delimiters) (template : Text) (data : Json) :
    Rendering :=
  match Node.parse (delimiters.tokens template) with
  | .error e => .fail (.template e)
  | .ok nodes => Node.renderAll strict ⟨data, []⟩ nodes

end Template

end Explainer
