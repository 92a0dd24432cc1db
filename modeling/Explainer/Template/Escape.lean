import Explainer.Text.Basic

/-!
# Escaped markup text

Values that are filled into markup may not add markup of their own. Six characters are written as
entities: the five that can open or close a tag, an attribute value or a template expression, and
the ampersand, so that reading the entities back is exact.
-/

namespace Explainer.Markup

/-- The entity of a character that may not stand in markup text. -/
def entity? (c : Char) : Option Text :=
  if c = '&' then some "&amp;".toList
  else if c = '<' then some "&lt;".toList
  else if c = '>' then some "&gt;".toList
  else if c = '"' then some "&quot;".toList
  else if c = '\'' then some "&#x27;".toList
  else if c = '\x60' then some "&#x60;".toList
  else none

/-- One character as markup text. -/
def escapeChar (c : Char) : Text := (entity? c).getD [c]

def escape (s : Text) : Text := s.flatMap escapeChar

/-- Reads the six entities back, from left to right; anything else stands for itself. -/
def unescape : Text → Text
  | '&' :: 'a' :: 'm' :: 'p' :: ';' :: rest => '&' :: unescape rest
  | '&' :: 'l' :: 't' :: ';' :: rest => '<' :: unescape rest
  | '&' :: 'g' :: 't' :: ';' :: rest => '>' :: unescape rest
  | '&' :: 'q' :: 'u' :: 'o' :: 't' :: ';' :: rest => '"' :: unescape rest
  | '&' :: '#' :: 'x' :: '2' :: '7' :: ';' :: rest => '\'' :: unescape rest
  | '&' :: '#' :: 'x' :: '6' :: '0' :: ';' :: rest => '\x60' :: unescape rest
  | c :: rest => c :: unescape rest
  | [] => []

end Explainer.Markup
