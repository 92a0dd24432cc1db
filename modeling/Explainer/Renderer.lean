import Explainer.Pane
import Explainer.Record
import Explainer.Registry
import Explainer.Template.Render

/-!
# Explaining an error

The message about an error record is its template, rendered against the record. A pane is filled
with the message only when there is one; a failure leaves it as it was.
-/

namespace Explainer

/-- Why there is no message about a record. -/
inductive ExplainError where
  /-- No template explains the kind of error. -/
  | templateNotFound (kind : Text)
  /-- The template of the kind cannot be rendered against the record. -/
  | notRendered (kind : Text) (cause : Template.RenderError)
deriving DecidableEq, Repr

/-- The wording of an explanation error. -/
def ExplainError.message : ExplainError → String
  | templateNotFound kind => "error template not found for " ++ String.ofList kind
  | notRendered kind cause =>
    "failed to render template for " ++ String.ofList kind ++ ": " ++ cause.message

/-- The outcome of explaining a record: the markup or the error, and what is worth reporting. -/
structure Explanation where
  result : Except ExplainError Text
  events : List Event

namespace Explanation

/-- A pane after an attempt to show the message in it. -/
def fill (e : Explanation) (pane : Pane) : Pane :=
  match e.result with
  | .ok markup => (pane.mount markup).reveal
  | .error _ => pane

end Explanation

/-- A way to render the text of a template against a value. -/
structure Engine where
  render (template : Text) (value : Json) (delimiters : Template.Delimiters) : Template.Rendering

namespace Engine

/-- The message about a record. -/
def explain (e : Engine) (delimiters : Template.Delimiters) (templates : TemplateSource)
    (record : ErrorRecord) : Explanation :=
  match templates.lookup? record.kind with
  | none => ⟨.error (.templateNotFound record.kind), []⟩
  | some template =>
    let rendering := e.render template.body record.value delimiters
    ⟨rendering.result.mapError (.notRendered record.kind), rendering.events⟩

end Engine

/-- How messages are rendered. -/
structure Renderer where
  /-- Whether a missing field is an error. -/
  strict : Bool
  delimiters : Template.Delimiters

namespace Renderer

/-- The renderer that is used unless another is given. -/
def standard : Renderer := ⟨false, .standard⟩

/-- The engine of the renderer, which reads tags and trees. -/
def engine (r : Renderer) : Engine where
  render template value delimiters := Template.render r.strict delimiters template value

/-- The message about a record. -/
def explain (r : Renderer) (templates : TemplateSource) (record : ErrorRecord) : Explanation :=
  r.engine.explain r.delimiters templates record

/-- A pane after an attempt to show the message about a record in it. -/
def fill (r : Renderer) (templates : TemplateSource) (record : ErrorRecord) (pane : Pane) : Pane :=
  (r.explain templates record).fill pane

end Renderer

end Explainer
