import Explainer.Markup.Node

/-!
# A cursor on a tree

A tree is walked with a cursor that stands on one node and can move to its first child, to its
next sibling, or to the node above it. `next?` is the step of a walk that comes to every node: it
goes down where it can, and else to the next sibling of the node or of the nearest node above
that has one.
-/

namespace Explainer.Markup

/-- How a cursor has come to a node: from the node above, whose children after that one are still
to come. -/
structure Cursor.Level where
  above : Node
  later : List Node

/-- A cursor: the node it stands on, and how it has come there, with the last level first. -/
structure Cursor where
  node : Node
  levels : List Cursor.Level

namespace Cursor

def ofRoot (root : Node) : Cursor := ⟨root, []⟩

/-- The node above. -/
def parent? (c : Cursor) : Option Node := c.levels.head?.map (·.above)

def firstChild? (c : Cursor) : Option Cursor :=
  match c.node.children with
  | [] => none
  | n :: later => some ⟨n, ⟨c.node, later⟩ :: c.levels⟩

/-- Where a walk goes on when it has been at all that is below the node with these levels. -/
def onward? : List Level → Option Cursor
  | [] => none
  | ⟨above, n :: later⟩ :: levels => some ⟨n, ⟨above, later⟩ :: levels⟩
  | ⟨_, []⟩ :: levels => onward? levels

/-- The next node of the walk. -/
def next? (c : Cursor) : Option Cursor :=
  match c.firstChild? with
  | some child => some child
  | none => onward? c.levels

end Cursor

/-! ## The walk ends -/

mutual

/-- The number of nodes of a tree. -/
def Node.size : Node → Nat
  | .mk _ _ children => Node.sizeAll children + 1

def Node.sizeAll : List Node → Nat
  | [] => 0
  | n :: rest => n.size + Node.sizeAll rest

end

theorem Node.size_eq (n : Node) : n.size = sizeAll n.children + 1 := by
  cases n
  rw [size]
  rfl

namespace Cursor

def sizeLater : List Level → Nat
  | [] => 0
  | level :: levels => Node.sizeAll level.later + sizeLater levels

/-- The number of nodes that the walk has not left behind. -/
def remaining (c : Cursor) : Nat := c.node.size + sizeLater c.levels

theorem onward?_remaining {levels : List Level} {c : Cursor} (h : onward? levels = some c) :
    c.remaining = sizeLater levels := by
  induction levels with
  | nil => cases h
  | cons level levels ih =>
      obtain ⟨above, later⟩ := level
      cases later with
      | nil => rw [ih h, sizeLater, Node.sizeAll, Nat.zero_add]
      | cons n later =>
          cases h
          rw [remaining, sizeLater, sizeLater, Node.sizeAll, Nat.add_assoc]

theorem next?_remaining {c c' : Cursor} (h : c.next? = some c') : c'.remaining < c.remaining := by
  have hsize := c.node.size_eq
  rw [next?, firstChild?] at h
  cases hchildren : c.node.children with
  | nil =>
      rw [hchildren] at h hsize
      rw [onward?_remaining h, remaining]
      omega
  | cons n later =>
      rw [hchildren] at h hsize
      cases h
      rw [Node.sizeAll] at hsize
      show n.size + (Node.sizeAll later + sizeLater c.levels) < c.node.size + sizeLater c.levels
      omega

end Cursor

end Explainer.Markup
