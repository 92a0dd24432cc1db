import Explainer.Regex.Program

/-!
# Searching

A search tries the positions of a text from left to right. At each it follows the program, the
preferred way first, and turns back where a way ends. A place of the program that has been reached
at a position need not be reached there again: whatever is found from it had its chance when it was
reached first. So a search takes no more steps than there are pairs of places and positions.
-/

namespace Explainer.Regex

/-- The positions recorded in slots, the latest first. -/
abbrev Slots := List (Nat × Nat)

/-- A way through the program: the next instruction, the position in the text, and the slots. -/
structure Thread where
  instruction : Nat
  position : Nat
  slots : Slots
deriving Repr

structure Found where
  start : Nat
  stop : Nat
  slots : Slots
deriving Repr

namespace Found

/-- The extent of the part that a group matched, if it took part. -/
def group? (f : Found) (n : Nat) : Option (Nat × Nat) := do
  some (← f.slots.lookup (2 * n), ← f.slots.lookup (2 * n + 1))

end Found

/-- The ways on from a thread, the preferred one first; `none` if it has reached the end. -/
def Program.next (p : Program) (s : Array Char) (t : Thread) : Option (List Thread) :=
  match p.code[t.instruction]? with
  | none => some []
  | some .accept => none
  | some (.char set next) =>
    if s[t.position]?.any set.contains then some [⟨next, t.position + 1, t.slots⟩] else some []
  | some (.look l word next) =>
    let before := if t.position = 0 then none else s[t.position - 1]?
    if l.holds word before s[t.position]? then some [⟨next, t.position, t.slots⟩] else some []
  | some (.split first second) =>
    some [⟨first, t.position, t.slots⟩, ⟨second, t.position, t.slots⟩]
  | some (.save slot next) => some [⟨next, t.position, (slot, t.position) :: t.slots⟩]

/-- Follows threads, the first of them first, until one reaches the end. `seen` says which pairs
of instruction and position have been reached. -/
def Program.follow (p : Program) (s : Array Char) :
    Nat → List Thread → Array Bool → Option Thread × Array Bool
  | 0, _, seen => (none, seen)
  | _, [], seen => (none, seen)
  | fuel + 1, t :: rest, seen =>
    let place := t.position * p.code.size + t.instruction
    if seen[place]?.getD true then p.follow s fuel rest seen
    else
      let seen := seen.setIfInBounds place true
      match p.next s t with
      | none => (some t, seen)
      | some threads => p.follow s fuel (threads ++ rest) seen

/-- Searches from so many positions, the first of them being `position`. -/
def Program.searchFrom (p : Program) (s : Array Char) (position : Nat) (seen : Array Bool) :
    Nat → Option Found
  | 0 => none
  | n + 1 =>
    match p.follow s (2 * seen.size + 1) [⟨p.start, position, []⟩] seen with
    | (some t, _) => some ⟨position, t.position, t.slots⟩
    | (none, seen) => p.searchFrom s (position + 1) seen n

/-- The leftmost place at or behind a position where the program finds something. -/
def Program.search (p : Program) (s : Text) (position : Nat) : Option Found :=
  let chars := s.toArray
  let seen := Array.replicate ((chars.size + 1) * p.code.size) false
  p.searchFrom chars position seen (chars.size + 1 - position)

end Explainer.Regex
