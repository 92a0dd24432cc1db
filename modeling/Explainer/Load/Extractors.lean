import Explainer.Load.Loader
import Explainer.Markup.Extract

/-!
# Readers of template sets

Sets are markup with marked elements, or plain lines of a type and a body with a bar between
them.
-/

namespace Explainer.Load

/-- What is said of a set whose markup could not be read. -/
def ExtractError.ofMarkup (set : Text) : Markup.MarkupError → ExtractError
  | .language reason => .noParser reason
  | .parse => .unparseable set

/-- The templates in markup in which the class `marker` marks them. -/
def Extractor.markup (reader : Markup.Reader) (marker : Text) : Extractor where
  extract set text := (reader.templates marker set text).mapError (.ofMarkup set)
  events set text := reader.templateEvents marker set text

/-- The template of one line, if it declares one. A line of one or two exclamation marks says that
the set cannot be read. -/
def lineTemplate (set line : Text) : Except ExtractError (Option MessageTemplate) :=
  let line := line.trim
  if line = ['!'] then .error (.unparseable set)
  else if line = ['!', '!'] then .error (.noParser "no grammar".toList)
  else if line.contains '|' then
    .ok (some ⟨line.takeWhile (· ≠ '|'), (line.dropWhile (· ≠ '|')).drop 1, some set⟩)
  else .ok none

def Extractor.lines : Extractor where
  extract set text := (text.lines.mapM (lineTemplate set)).map List.reduceOption
  events _ _ := []

end Explainer.Load
