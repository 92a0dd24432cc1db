import Explainer.Json.Basic

/-!
# Paths into a value

A dotted path names a position in a value: each segment selects a member of an object by its key,
or an item of an array by its index. The path is trimmed as a whole, and the empty path is the
value itself.
-/

namespace Explainer

/-- The index that a segment spells: digits with leading zeros allowed and at most one plus sign
before them. -/
def readIndex? : Text → Option Nat
  | '+' :: digits => readWord? digits
  | digits => readWord? digits

namespace Json

/-- The part of a value that one segment selects. Scalars have no parts. -/
def child? (segment : Text) : Json → Option Json
  | obj members => Members.find? segment members
  | arr items => (readIndex? segment).bind fun i => items[i]?
  | _ => none

/-- Descends one segment at a time. -/
def descend? : List Text → Json → Option Json
  | [], v => some v
  | segment :: rest, v => (v.child? segment).bind (descend? rest)

/-- The part of a value at a dotted path. -/
def lookup? (path : Text) (v : Json) : Option Json :=
  let path := path.trim
  if path.isEmpty then some v else descend? (path.splitOn '.') v

end Json

end Explainer
