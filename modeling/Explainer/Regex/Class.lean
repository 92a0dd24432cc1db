import Explainer.Regex.Escape

/-!
# Classes in brackets

A class lists characters, ranges and other classes, and may put two lists together by the
operations of sets, from left to right. Brackets nest.
-/

namespace Explainer.Regex

namespace Reader

/-- The set with case variants if the flags ask for them. -/
def foldSet (s : CharSet) : Reader CharSet := do
  let f ← flags
  if !f.caseless then return s
  else if f.unicode then return .caseless s
  else return .inter (.caseless s) .ascii

/-- The set of the ASCII class whose name stands here between brackets and colons, whether its
complement is meant, and what follows. -/
def namedClass? (s : Text) : Option (CharSet × Bool × Text) := do
  if !(['[', ':'].isPrefixOf s) then none
  let inner := s.drop 2
  let negated := inner.head? = some '^'
  let inner := if negated then inner.tail else inner
  let name := inner.takeWhile (· ≠ ':')
  let rest := inner.dropWhile (· ≠ ':')
  if !([':', ']'].isPrefixOf rest) then none
  let ranges ← CharSet.named.lookup name
  some (.ranges ranges, negated, rest.drop 2)

/-- An operation between two classes. -/
abbrev SetOp := CharSet → CharSet → CharSet

/-- The operations between classes, and how they are written. -/
def setOps : List (Text × SetOp) :=
  [(['&', '&'], .inter), (['-', '-'], .without), (['~', '~'], .either)]

/-- A class that is being read: what stands before the last operation, and the items behind it. -/
structure Class where
  before : Option (CharSet × SetOp)
  items : CharSet

/-- The set of a class so far. -/
def finish (c : Class) : Reader CharSet := do
  let items ← foldSet c.items
  match c.before with
  | none => return items
  | some (left, op) => return op (← foldSet left) items

def addTo (c : Class) (s : CharSet) : Class := { c with items := .union c.items s }

/-- Reads one item: a character, or what an escape stands for. -/
def item : Reader Escape := do
  let c ← next
  if c = '\\' then escape else return .literal c false

/-- The set of an item that is no range. -/
def itemSet : Escape → Reader CharSet
  | .literal c _ => do
    if !(← flags).unicode && 0x7f < c.toNat then failure else return .single c
  | .set s => return s
  | .look _ => failure

/-- Reads an item or a range of items. A hyphen before a closing bracket or another hyphen makes
no range. -/
def range : Reader CharSet := do
  let first ← item
  skipSpace
  let r ← get
  match r.rest with
  | '-' :: after =>
    let after := if r.flags.verbose then skipVerbose after.length after else after
    match after.head? with
    | some ']' | some '-' => itemSet first
    | _ =>
      skip
      skipSpace
      match first, ← item with
      | .literal a _, .literal b _ =>
        if b.toNat < a.toNat || (!r.flags.unicode && 0x7f < b.toNat) then failure
        else return .between a b
      | _, _ => failure
  | [] => failure
  | _ => itemSet first

/-- Reads the hyphens and the closing bracket that stand for themselves at the start of a class. -/
def classStart : Reader CharSet := do
  let hyphens ← takeWhile (· = '-')
  let items := if hyphens.isEmpty then CharSet.empty else .single '-'
  skipSpace
  if hyphens.isEmpty && (← eats [']']) then
    skipSpace
    return .single ']'
  else return items

/-- The operation that stands here, if one does. -/
def setOp? : Reader (Option SetOp) := do
  let rest := (← get).rest
  match setOps.find? fun (s, _) => s.isPrefixOf rest with
  | some (s, op) =>
    let _ ← eats s
    return some op
  | none => return none

mutual

/-- Reads a class behind its opening bracket. -/
def bracketed : Nat → Reader CharSet
  | 0 => failure
  | fuel + 1 => do
    skipSpace
    let negated ← eats ['^']
    skipSpace
    let s ← classItems ⟨none, ← classStart⟩ fuel
    inMode (if negated then .complement s else s)

/-- Reads the items of a class up to its closing bracket. -/
def classItems (c : Class) : Nat → Reader CharSet
  | 0 => failure
  | fuel + 1 => do
    skipSpace
    match namedClass? (← get).rest with
    | some (named, negated, rest) =>
      modify fun r => { r with rest := rest }
      let s ← foldSet named
      classItems (addTo c (← inMode (if negated then .complement s else s))) fuel
    | none =>
      if ← eats ['['] then classItems (addTo c (← bracketed fuel)) fuel
      else if ← eats [']'] then finish c
      else match ← setOp? with
        | some op => classItems ⟨some (← finish c, op), .empty⟩ fuel
        | none => classItems (addTo c (← range)) fuel

end

end Reader

end Explainer.Regex
