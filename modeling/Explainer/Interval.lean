import Explainer.Text.Number
import Explainer.Text.Quoted

/-!
# Highlight intervals

Rendered messages mark the ranges of source text that they speak about by a descriptor: one
offset, or two with a comma between them. A descriptor is read strictly, so that a message never
points at a place that its author did not write.
-/

namespace Explainer

/-- A range of source text. Without a stop it is a single point. -/
structure Interval where
  start : Nat
  stop : Option Nat
deriving DecidableEq, Repr

namespace Interval

/-- The interval that marks one offset. -/
def point (start : Nat) : Interval := ⟨start, none⟩

/-- The interval between two offsets. -/
def span (start stop : Nat) : Interval := ⟨start, some stop⟩

/-- Whether the interval marks one offset only. -/
def isPoint (i : Interval) : Bool := i.stop.isNone

/-- Whether the stop, if there is one, is not before the start. -/
def isWellOrdered (i : Interval) : Bool := i.stop.all (i.start ≤ ·)

def text (i : Interval) : Text :=
  match i.stop with
  | none => natText i.start
  | some stop => natText i.start ++ ',' :: natText stop

end Interval

/-- Why a descriptor is no interval. Every cause carries the descriptor as it was written. -/
inductive IntervalError where
  /-- The first segment is empty. -/
  | missingStart (descriptor : Text)
  /-- The first segment is not an offset. -/
  | invalidStart (descriptor segment : Text)
  /-- The second segment is not empty and not an offset. -/
  | invalidStop (descriptor segment : Text)
  /-- There are more than two segments. -/
  | tooManySegments (descriptor : Text) (count : Nat)
deriving DecidableEq, Repr

def IntervalError.message : IntervalError → String
  | missingStart d => "highlight descriptor " ++ quote d ++ " has no start offset"
  | invalidStart d s =>
    "highlight descriptor " ++ quote d ++ " has an invalid start " ++ quote s
      ++ ", expected a decimal offset"
  | invalidStop d s =>
    "highlight descriptor " ++ quote d ++ " has an invalid end " ++ quote s
      ++ ", expected a decimal offset"
  | tooManySegments d n =>
    "highlight descriptor " ++ quote d ++ " has " ++ toString n ++ " segments, expected one or two"

namespace Interval

/-- The segments of a descriptor: the parts between commas, trimmed. -/
def segments (descriptor : Text) : List Text := (descriptor.splitOn ',').map Text.trim

/-- Reads the stop of an interval: absent if the segment is missing or empty. -/
def readStop (descriptor : Text) : List Text → Except IntervalError (Option Nat)
  | [] => .ok none
  | segment :: _ =>
    if segment.isEmpty then .ok none
    else match readWord? segment with
      | some n => .ok (some n)
      | none => .error (.invalidStop descriptor segment)

/-- Reads a descriptor. The number of segments is judged before the start, the start before the
stop. -/
def parse (descriptor : Text) : Except IntervalError Interval :=
  match segments descriptor with
  | [] => .error (.missingStart descriptor)
  | first :: rest =>
    if 1 < rest.length then .error (.tooManySegments descriptor (rest.length + 1))
    else if first.isEmpty then .error (.missingStart descriptor)
    else match readWord? first with
      | none => .error (.invalidStart descriptor first)
      | some start => (readStop descriptor rest).map fun stop => ⟨start, stop⟩

end Interval

end Explainer
