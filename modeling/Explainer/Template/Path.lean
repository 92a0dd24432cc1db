import Explainer.Text.Alphanumeric
import Explainer.Text.Quoted

/-!
# Field paths in templates

An expression is a dotted path of identifiers, nothing else: templates cannot call, compare or
compute. This module also holds the ways in which the text of a template can be wrong.
-/

namespace Explainer.Template

/-- What is wrong with the text of a template. -/
inductive TemplateError where
  /-- A tag with nothing in it. -/
  | emptyExpression
  /-- An interpolation that is no field path. -/
  | unsupportedExpression (expression : Text)
  /-- A directive that is none. -/
  | unknownDirective (directive : Text)
  /-- An `else` or `end` that belongs to no open block. -/
  | unexpectedDirective (word : Text)
  /-- A block that has no end. -/
  | unclosed (directive : Text)
deriving DecidableEq, Repr

def TemplateError.message : TemplateError → String
  | emptyExpression => "empty template expression"
  | unsupportedExpression e =>
    "unsupported expression " ++ quote e ++ "; only dotted field paths are allowed"
  | unknownDirective d => "unknown template directive " ++ quote d
  | unexpectedDirective w => "unexpected `" ++ String.ofList w ++ "` with no open block"
  | unclosed d => "block `" ++ String.ofList d ++ "` is never closed"

/-- Whether the character may stand in an identifier. -/
def isIdentifierChar (c : Char) : Bool := isAlphanumeric c || c = '_' || c = '$' || c = '-'

def isIdentifier (s : Text) : Bool := !s.isEmpty && s.all isIdentifierChar

/-- Whether the text is a dotted path of identifiers. -/
def isPath (s : Text) : Bool := (s.splitOn '.').all isIdentifier

/-- The field path that an expression is. -/
def readPath (expression : Text) : Except TemplateError Text :=
  let path := expression.trim
  if path.isEmpty then .error .emptyExpression
  else if isPath path then .ok path
  else .error (.unsupportedExpression path)

end Explainer.Template
