import Explainer.Markup.Element
import Mathlib.Data.List.Basic

/-!
# The walk over a tree

The elements of a tree are collected by a cursor that goes from node to node,
and at each of them looks at the node above. Where it goes next depends on the
way it has come. `visits` is the same walk by recursion on the tree, with the
address of every node: what the cursor finds from a node on is what is below
the node, and then what the levels above still have to come
(`elementsFrom_eq`), and so on the whole tree it finds what the nodes of
`visits` give rise to (`elementsFrom_ofRoot`).

Addresses make two statements about the walk possible that the nodes do not,
because equal nodes may stand at several places. It comes to every address of
the tree, with the node and the parent that are there (`mem_visits`); and it
never comes to an address when it has been at one below it, or at the address
itself (`visits_pairwise`). So it comes to each node once, and in document
order.
-/

namespace Explainer.Markup

/-- Where a node stands in a tree: the numbers of the children on the way to it. -/
abbrev Address := List Nat

namespace Node

def at? (n : Node) : Address → Option Node
  | [] => some n
  | i :: rest => n.children[i]?.bind (·.at? rest)

/-- The kind of the node above an address, given the one above the tree. -/
def parentAt (above : Option Kind) (n : Node) : Address → Option Kind
  | [] => above
  | i :: rest => n.children[i]?.bind (·.parentAt (some n.kind) rest)

theorem at?_append (n : Node) (a b : Address) : n.at? (a ++ b) = (n.at? a).bind (·.at? b) := by
  induction a generalizing n with
  | nil => rfl
  | cons i rest ih =>
      rw [List.cons_append, at?, at?]
      cases n.children[i]? with
      | none => rfl
      | some c => exact ih c

theorem at?_concat {n m : Node} {a : Address} (h : n.at? a = some m) (i : Nat) :
    n.at? (a ++ [i]) = m.children[i]? := by
  rw [at?_append, h, Option.bind_some, at?]
  cases m.children[i]? <;> rfl

/-- The node above a child is the one whose child it is. -/
theorem parentAt_concat {n m : Node} {a : Address} {i : Nat} (above : Option Kind)
    (h : n.at? a = some m) (hi : i < m.children.length) :
    n.parentAt above (a ++ [i]) = some m.kind := by
  induction a generalizing n above with
  | nil =>
      obtain rfl := Option.some.inj h
      rw [List.nil_append, parentAt, List.getElem?_eq_getElem hi]
      rfl
  | cons j rest ih =>
      rw [at?] at h
      obtain ⟨c, hc, h⟩ := Option.bind_eq_some_iff.mp h
      rw [List.cons_append, parentAt, hc]
      exact ih _ h

end Node

/-! ## Nested ranges -/

namespace Node

mutual

/-- Whether the ranges of a tree are nested as its nodes are, and follow one another in their
order. -/
def Nested : Node → Prop
  | .mk _ extent children =>
    (∀ c ∈ children, extent.start ≤ c.start ∧ c.stop ≤ extent.stop) ∧
      children.Pairwise (fun a b => a.start ≤ b.start) ∧ NestedAll children

def NestedAll : List Node → Prop
  | [] => True
  | n :: rest => n.Nested ∧ NestedAll rest

end

mutual

instance decidableNested : (n : Node) → Decidable n.Nested
  | .mk _ _ children =>
    have := decidableNestedAll children
    inferInstanceAs (Decidable (_ ∧ _ ∧ _))

instance decidableNestedAll : (ns : List Node) → Decidable (NestedAll ns)
  | [] => inferInstanceAs (Decidable True)
  | n :: rest =>
    have := decidableNested n
    have := decidableNestedAll rest
    inferInstanceAs (Decidable (_ ∧ _))

end

theorem nestedAll_iff {ns : List Node} : NestedAll ns ↔ ∀ n ∈ ns, n.Nested := by
  induction ns with
  | nil => exact iff_of_true trivial (fun _ h => absurd h List.not_mem_nil)
  | cons n rest ih => rw [NestedAll, ih, List.forall_mem_cons]

theorem Nested.child {n c : Node} (h : n.Nested) {i : Nat} (hc : n.children[i]? = some c) :
    n.start ≤ c.start ∧ c.Nested := by
  obtain ⟨kind, extent, children⟩ := n
  rw [Nested] at h
  have hmem : c ∈ children := List.mem_of_getElem? hc
  exact ⟨(h.1 c hmem).1, nestedAll_iff.mp h.2.2 c hmem⟩

theorem Nested.sibling {n a b : Node} (h : n.Nested) {i j : Nat} (hij : i < j)
    (ha : n.children[i]? = some a) (hb : n.children[j]? = some b) : a.start ≤ b.start := by
  obtain ⟨kind, extent, children⟩ := n
  rw [Nested] at h
  obtain ⟨hi, rfl⟩ := List.getElem?_eq_some_iff.mp ha
  obtain ⟨hj, rfl⟩ := List.getElem?_eq_some_iff.mp hb
  exact List.pairwise_iff_getElem.mp h.2.1 i j hi hj hij

/-- Below a node nothing starts before it. -/
theorem Nested.at? {n m : Node} (h : n.Nested) {a : Address} (hm : n.at? a = some m) :
    n.start ≤ m.start ∧ m.Nested := by
  induction a generalizing n with
  | nil =>
      obtain rfl := Option.some.inj hm
      exact ⟨Nat.le_refl _, h⟩
  | cons i rest ih =>
      rw [Node.at?] at hm
      obtain ⟨c, hc, hm⟩ := Option.bind_eq_some_iff.mp hm
      obtain ⟨hstart, hnested⟩ := h.child hc
      obtain ⟨hle, hm⟩ := ih hnested hm
      exact ⟨Nat.le_trans hstart hle, hm⟩

theorem Nested.start_le {root n m : Node} (h : root.Nested) {a b : Address} (hab : a <+: b)
    (hn : root.at? a = some n) (hm : root.at? b = some m) : n.start ≤ m.start := by
  obtain ⟨c, rfl⟩ := hab
  rw [at?_append, hn] at hm
  exact ((h.at? hn).2.at? hm).1

end Node

/-! ## Visits -/

/-- A node that the walk comes to: where it stands, the kind of the node above it, and the node. -/
structure Visit where
  place : Address
  parent : Option Kind
  node : Node

/-- The visit seen from one level above. -/
def Visit.below (i : Nat) (v : Visit) : Visit := { v with place := i :: v.place }

namespace Node

mutual

def visits (parent : Option Kind) : Node → List Visit
  | .mk kind extent children =>
    ⟨[], parent, .mk kind extent children⟩ :: visitsAll kind 0 children

/-- The visits to children and to what is below them, the first of which has the number `i`. -/
def visitsAll (parent : Kind) (i : Nat) : List Node → List Visit
  | [] => []
  | n :: rest => (visits (some parent) n).map (·.below i) ++ visitsAll parent (i + 1) rest

end

/-! ## The steps of the cursor -/

/-- What a walk finds when it has been at all that is below the node with these levels. -/
def elementsOnward (source : Text) (levels : List Cursor.Level) : List Element :=
  ((Cursor.onward? levels).map (elementsFrom source)).getD []

/-- A step down is a step onward through the children. -/
theorem elementsFrom_step (source : Text) (n : Node) (levels : List Cursor.Level) :
    elementsFrom source ⟨n, levels⟩
      = ownElements source ((levels.head?.map (·.above)).map kind) n
        ++ elementsOnward source (⟨n, n.children⟩ :: levels) := by
  have hnext : (Cursor.mk n levels).next? = Cursor.onward? (⟨n, n.children⟩ :: levels) := by
    rw [Cursor.next?, Cursor.firstChild?]
    cases n.children <;> rfl
  rw [elementsFrom, elementsOnward, ← hnext]
  refine congrArg (List.append _) ?_
  split
  · next h => rw [h]; rfl
  · next c h => rw [h]; rfl

mutual

/-- From a node on the cursor comes to what is below the node, and then goes onward. -/
theorem elementsFrom_eq (source : Text) (levels : List Cursor.Level) :
    (n : Node) → elementsFrom source ⟨n, levels⟩
      = ((visits ((levels.head?.map (·.above)).map kind) n).flatMap fun v =>
          ownElements source v.parent v.node) ++ elementsOnward source levels
  | .mk kind extent children => by
      rw [elementsFrom_step, visits, List.flatMap_cons, List.append_assoc]
      exact congrArg (List.append _) (elementsOnward_eq source _ levels 0 children)

theorem elementsOnward_eq (source : Text) (above : Node) (levels : List Cursor.Level) (i : Nat) :
    (ns : List Node) → elementsOnward source (⟨above, ns⟩ :: levels)
      = ((visitsAll above.kind i ns).flatMap fun v => ownElements source v.parent v.node)
        ++ elementsOnward source levels
  | [] => rfl
  | n :: rest => by
      have hlater : elementsOnward source (⟨above, n :: rest⟩ :: levels)
          = elementsFrom source ⟨n, ⟨above, rest⟩ :: levels⟩ := rfl
      rw [hlater, elementsFrom_eq source _ n, elementsOnward_eq source above levels (i + 1) rest,
        visitsAll, List.flatMap_append, List.flatMap_map, List.append_assoc]
      rfl

end

/-- What the cursor finds on a tree is what its nodes give rise to. -/
theorem elementsFrom_ofRoot (source : Text) (root : Node) :
    elementsFrom source (.ofRoot root)
      = (visits none root).flatMap fun v => ownElements source v.parent v.node := by
  rw [Cursor.ofRoot, elementsFrom_eq]
  exact List.append_nil _

/-! ## What the walk comes to -/

theorem mem_visitsAll {parent : Kind} {i : Nat} {ns : List Node} {v : Visit} :
    v ∈ visitsAll parent i ns ↔
      ∃ j c w, ns[j]? = some c ∧ w ∈ visits (some parent) c ∧ v = w.below (i + j) := by
  induction ns generalizing i with
  | nil =>
      rw [visitsAll]
      exact iff_of_false List.not_mem_nil fun ⟨j, c, w, h, _⟩ => by cases h
  | cons n rest ih =>
      rw [visitsAll, List.mem_append, List.mem_map, ih]
      constructor
      · rintro (⟨w, hw, rfl⟩ | ⟨j, c, w, hc, hw, rfl⟩)
        · exact ⟨0, n, w, rfl, hw, rfl⟩
        · exact ⟨j + 1, c, w, hc, hw, by rw [Nat.add_right_comm, Nat.add_assoc]⟩
      · rintro ⟨j, c, w, hc, hw, rfl⟩
        cases j with
        | zero => exact .inl ⟨w, Option.some.inj hc ▸ hw, rfl⟩
        | succ j => exact .inr ⟨j, c, w, hc, hw, by rw [Nat.add_right_comm, Nat.add_assoc]⟩

/-- The walk comes to every address of the tree, with what is there. -/
theorem mem_visits {parent : Option Kind} {n : Node} {v : Visit} :
    v ∈ visits parent n ↔
      n.at? v.place = some v.node ∧ n.parentAt parent v.place = v.parent := by
  obtain ⟨place, p, m⟩ := v
  induction place generalizing parent n with
  | nil =>
      obtain ⟨kind, extent, children⟩ := n
      rw [visits, List.mem_cons, mem_visitsAll]
      constructor
      · rintro (h | ⟨j, c, w, -, -, h⟩)
        · cases h
          exact ⟨rfl, rfl⟩
        · cases h
      · rintro ⟨hm, hp⟩
        cases hm
        cases hp
        exact .inl rfl
  | cons i rest ih =>
      obtain ⟨kind, extent, children⟩ := n
      rw [visits, List.mem_cons, mem_visitsAll, Node.at?, parentAt]
      constructor
      · rintro (h | ⟨j, c, w, hc, hw, h⟩)
        · cases h
        · rw [Nat.zero_add] at h
          obtain ⟨place, p', m'⟩ := w
          cases h
          rw [show (Node.mk kind extent children).children[i]? = some c from hc]
          exact ih.mp hw
      · rintro ⟨hm, hp⟩
        obtain ⟨c, hc, hm⟩ := Option.bind_eq_some_iff.mp hm
        rw [hc] at hp
        exact .inr ⟨i, c, ⟨rest, p, m⟩, hc, ih.mpr ⟨hm, hp⟩, by rw [Nat.zero_add]; rfl⟩

mutual

/-- The walk comes to no address again, and to none above one where it has been. -/
theorem visits_pairwise (parent : Option Kind) :
    (n : Node) → (visits parent n).Pairwise fun v w => ¬ w.place <+: v.place
  | .mk kind extent children => by
      rw [visits, List.pairwise_cons]
      refine ⟨fun w hw => ?_, visitsAll_pairwise kind 0 children⟩
      obtain ⟨j, c, u, -, -, rfl⟩ := mem_visitsAll.mp hw
      exact fun h => absurd (List.prefix_nil.mp h) (List.cons_ne_nil _ _)

theorem visitsAll_pairwise (parent : Kind) (i : Nat) :
    (ns : List Node) → (visitsAll parent i ns).Pairwise fun v w => ¬ w.place <+: v.place
  | [] => List.Pairwise.nil
  | n :: rest => by
      rw [visitsAll, List.pairwise_append, List.pairwise_map]
      refine ⟨?_, visitsAll_pairwise parent (i + 1) rest, fun v hv w hw h => ?_⟩
      · refine (visits_pairwise (some parent) n).imp fun hvw h => hvw ?_
        exact (List.cons_prefix_cons.mp h).2
      · -- Addresses below different children have no common start.
        obtain ⟨v, -, rfl⟩ := List.mem_map.mp hv
        obtain ⟨j, c, w, -, -, rfl⟩ := mem_visitsAll.mp hw
        have hij : i + 1 + j = i := (List.cons_prefix_cons.mp h).1
        omega

end

end Node

end Explainer.Markup
