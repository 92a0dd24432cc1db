import Explainer.Regex.Parser
import Explainer.Regex.Search
import Explainer.Template.Token
import Explainer.Text.Quoted

/-!
# Tags given by patterns

A family of tags may be given by a regular expression, whose first group holds the expression of a
tag. The standard tags are searched for directly; they are the tags that their patterns describe
(`Delimiters.ofPatterns_standard`).
-/

namespace Explainer.Template

/-- Why a pattern describes no tags. -/
inductive PatternError where
  /-- It is no regular expression. -/
  | malformed
  /-- It has no group for the expression. -/
  | missingGroup (pattern : Text)
deriving DecidableEq, Repr

/-- The wording of a pattern error, where this library owns it. -/
def PatternError.message? : PatternError → Option String
  | malformed => none
  | missingGroup pattern =>
    some ("delimiter pattern " ++ quote pattern ++ " has no capture group for the expression")

namespace Delimiter

/-- The tags that a program finds. -/
def ofProgram (pattern : Text) (p : Regex.Program) : Delimiter where
  pattern := pattern
  search s position := (p.search s position).map fun f => ⟨f.start, f.stop, f.group? 1⟩

/-- The tags that a pattern describes. -/
def ofPattern (pattern : Text) : Except PatternError Delimiter :=
  match Regex.parse? pattern with
  | none => .error .malformed
  | some r =>
    match Regex.Program.ofRegex? r with
    | none => .error .malformed
    | some p =>
      if r.lastGroup = 0 then .error (.missingGroup pattern) else .ok (ofProgram pattern p)

end Delimiter

/-- The delimiters of two patterns; without a pattern a family has its standard tags. The pattern
for interpolation is looked at first. -/
def Delimiters.ofPatterns (escape evaluate : Option Text) : Except PatternError Delimiters :=
  let of (standard : Delimiter) : Option Text → Except PatternError Delimiter
    | none => .ok standard
    | some pattern => Delimiter.ofPattern pattern
  match of .doubleBraces escape with
  | .error e => .error e
  | .ok escape =>
    match of .percentBrackets evaluate with
    | .error e => .error e
    | .ok evaluate => .ok ⟨escape, evaluate⟩

end Explainer.Template
