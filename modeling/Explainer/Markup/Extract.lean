import Explainer.Markup.Element
import Explainer.Registry

/-!
# Templates in markup

A template set is a markup text. Each element with the marker class declares templates: one for
every other class it has, all with the content of the element as their body. A text that cannot be
read has no templates, and nothing is reported of it but the reason.
-/

namespace Explainer.Markup

/-- The class that marks template elements unless another is chosen. -/
def defaultMarker : Text := "error-msg".toList

/-- The types that an element declares: its classes other than the marker, each once, in order of
first occurrence. -/
def Element.declaredTypes (e : Element) (marker : Text) : List Text :=
  (e.classes.filter (· ≠ marker)).eraseDups

def Element.templates (e : Element) (marker set source : Text) : List MessageTemplate :=
  if e.hasClass marker then
    (e.declaredTypes marker).map fun type => ⟨type, e.innerMarkup source, some set⟩
  else []

/-- What the reading of one element reports: a marked element that declares nothing. -/
def Element.templateEvents (e : Element) (marker set : Text) : List Event :=
  if e.hasClass marker && (e.declaredTypes marker).isEmpty then
    [.elementWithoutType set marker]
  else []

/-- The templates in a markup text that has been read. -/
def Fragment.templates (f : Fragment) (marker set : Text) : List MessageTemplate :=
  f.elements.flatMap (·.templates marker set f.source)

/-- What the search for templates reports. -/
def Fragment.templateEvents (f : Fragment) (marker set : Text) : List Event :=
  (if f.hasErrors then [.setMalformed set] else [])
    ++ f.elements.flatMap (·.templateEvents marker set)

/-- The templates in a markup text. -/
def Reader.templates (r : Reader) (marker set text : Text) :
    Except MarkupError (List MessageTemplate) :=
  (r.read text).map (·.templates marker set)

def Reader.templateEvents (r : Reader) (marker set text : Text) : List Event :=
  match r.read text with
  | .error _ => []
  | .ok f => f.templateEvents marker set

end Explainer.Markup
