import Explainer.Interval
import Explainer.Json.Reader
import Explainer.Json.Writer

/-!
# Intervals as JSON

An interval is exchanged as an object with a `start` and an optional `end`, or as a pair of the
two. Members with other names are skipped, and what is skipped only has to be JSON by its grammar.
A repeated `start` or `end` is refused.
-/

namespace Explainer.Interval

/-- The offset that a document spells: an integer that is not negative and fits a word. -/
def offsetOf? : JsonDocument → Option Nat
  | .num n => match n.value? with
    | some (.int (.ofNat k)) => some k
    | _ => none
  | _ => none

/-- The stop that a document spells; the null document says that there is none. -/
def stopOf? : JsonDocument → Option (Option Nat)
  | .null => some none
  | d => (offsetOf? d).map some

/-- Collects the start and the stop of an object, each at most once. -/
def ofMembers? (start : Option Nat) (stop : Option (Option Nat)) :
    List (List StringPart × JsonDocument) → Option Interval
  | [] => start.map fun s => ⟨s, stop.getD none⟩
  | (k, d) :: rest => do
    let key ← StringPart.textOf? k
    if key = "start".toList then
      let s ← offsetOf? d
      if start.isSome then none else ofMembers? (some s) stop rest
    else if key = "end".toList then
      let e ← stopOf? d
      if stop.isSome then none else ofMembers? start (some e) rest
    else ofMembers? start stop rest

def ofDocument? : JsonDocument → Option Interval
  | .obj members => ofMembers? none none members
  | .arr [start, stop] => do
    let s ← offsetOf? start
    let e ← stopOf? stop
    some ⟨s, e⟩
  | _ => none

def parseJson? (s : Text) : Option Interval := (JsonDocument.parse? s).bind ofDocument?

def toJson (i : Interval) : Json :=
  .obj (Members.ofList [
    ("start".toList, .num (.int i.start)),
    ("end".toList, match i.stop with
      | none => .null
      | some n => .num (.int n))])

end Explainer.Interval
