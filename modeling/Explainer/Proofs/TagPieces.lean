import Explainer.Proofs.LooseTags
import Mathlib.Data.List.Forall2
import Mathlib.Data.List.TakeWhile
import Mathlib.Data.Set.List

/-!
# Which children make a tag in pieces

The pass over the children of an error node looks back one child, and it keeps
a tag open until something ends it. What a reader wants to know has no state in
it: a bracket with a name right behind it is a tag, all attributes directly
behind the name are its attributes, and it ends with the mark behind these, if
there is one. `Pieces` is such a group of children with what stands around it,
and `Pieces.Shown` says which element it is shown by.

That no attribute has two tags, that the ranges of the tags are apart, and that
they come in order, are all the same observation: nothing inside a tag is a
bracket, so the next tag starts behind it (`Pieces.stop_le_place`).
-/

namespace Explainer.Markup

/-! ## Lists that correspond item by item -/

theorem forall₂_of_map_eq {α β : Type} {f : α → Option β} {l : List α} {l' : List β}
    (h : l.map f = l'.map some) : List.Forall₂ (fun a b => f a = some b) l l' := by
  rwa [← List.forall₂_eq_eq_eq, List.forall₂_map_left_iff, List.forall₂_map_right_iff] at h

theorem exists_of_forall₂ {α β : Type} {R : α → β → Prop} {l : List α} {l' : List β}
    (h : List.Forall₂ R l l') {b : β} (hb : b ∈ l') : ∃ a ∈ l, R a b := by
  induction h with
  | nil => cases hb
  | @cons a b' l l' hab _ ih =>
      rcases List.mem_cons.mp hb with rfl | hb
      · exact ⟨a, List.mem_cons_self, hab⟩
      · obtain ⟨a', ha', hab'⟩ := ih hb
        exact ⟨a', List.mem_cons_of_mem a ha', hab'⟩

namespace Node

/-- Nodes that stand one behind the other, without overlap. -/
structure InOrder (nodes : List Node) : Prop where
  range : ∀ n ∈ nodes, n.start ≤ n.stop
  apart : nodes.Pairwise fun a b => a.stop ≤ b.start

instance (nodes : List Node) : Decidable (InOrder nodes) :=
  decidable_of_iff
    ((∀ n ∈ nodes, n.start ≤ n.stop) ∧ nodes.Pairwise fun a b => a.stop ≤ b.start)
    ⟨fun h => ⟨h.1, h.2⟩, fun h => ⟨h.range, h.apart⟩⟩

theorem InOrder.stop_le_start {nodes : List Node} (h : InOrder nodes) {i j : Nat} {a b : Node}
    (ha : nodes[i]? = some a) (hb : nodes[j]? = some b) (hij : i < j) : a.stop ≤ b.start := by
  obtain ⟨hi, rfl⟩ := List.getElem?_eq_some_iff.mp ha
  obtain ⟨hj, rfl⟩ := List.getElem?_eq_some_iff.mp hb
  exact List.pairwise_iff_getElem.mp h.apart i j hi hj hij

def isNamed (n : Node) : Bool := n.children.any (·.kind = .attributeName)

/-- A bracket with a name right behind it, from child `i` on. -/
def PairAt (children : List Node) (i : Nat) : Prop :=
  ∃ bracket name, children[i]? = some bracket ∧ children[i + 1]? = some name ∧
    bracket.kind = .tagOpen ∧ name.kind = .tagName

variable {source : Text} {children : List Node}

/-- Only an attribute without a name is left out. -/
theorem attribute?_eq_none_iff {n : Node} : n.attribute? source = none ↔ n.isNamed = false := by
  simp only [attribute?, isNamed, Option.map_eq_none_iff, List.getLast?_eq_none_iff,
    List.map_eq_nil_iff, List.filter_eq_nil_iff, List.any_eq_false]

theorem forall₂_filterMap_attribute? (nodes : List Node) :
    List.Forall₂ (fun n a => n.attribute? source = some a) (nodes.filter isNamed)
      (nodes.filterMap (attribute? source)) := by
  induction nodes with
  | nil => exact .nil
  | cons n rest ih =>
      cases ha : n.attribute? source with
      | none =>
          rw [List.filterMap_cons_none ha,
            List.filter_cons_of_neg (by simp [attribute?_eq_none_iff.mp ha])]
          exact ih
      | some a =>
          have hnamed : n.isNamed = true := by
            rw [← Bool.not_eq_false, ← @attribute?_eq_none_iff source n, ha]
            nofun
          rw [List.filterMap_cons_some ha, List.filter_cons_of_pos hnamed]
          exact .cons ha ih

end Node

open Node

/-- The pieces of one tag among the children of a node: bracket, name, and the attributes that
follow directly, as many as there are. -/
structure Pieces (children : List Node) where
  before : List Node
  bracket : Node
  name : Node
  attributes : List Node
  after : List Node
  children_eq : children = before ++ bracket :: name :: (attributes ++ after)
  bracket_kind : bracket.kind = .tagOpen
  name_kind : name.kind = .tagName
  attributes_kind : ∀ a ∈ attributes, a.kind = .attr
  after_kind : ∀ n ∈ after.head?, n.kind ≠ .attr

namespace Pieces

variable {source : Text} {children : List Node} {p q : Pieces children} {last : Node}
  {e e' : Element}

/-- The number of the child that is the bracket. -/
def place (p : Pieces children) : Nat := p.before.length

/-- The number of the child behind the attributes. -/
def stop (p : Pieces children) : Nat := p.place + 2 + p.attributes.length

/-- Whether child `j` is an attribute of the tag. -/
def Owns (p : Pieces children) (j : Nat) : Prop := p.place + 2 ≤ j ∧ j < p.stop

/-- The last node of the tag. -/
inductive EndsWith (p : Pieces children) : Node → Prop where
  | mark {m : Node} (hm : p.after.head? = some m) (h : m.kind.isTagEnd = true) : EndsWith p m
  | lastAttribute {a : Node} (hno : ∀ m ∈ p.after.head?, m.kind.isTagEnd = false)
      (ha : p.attributes.getLast? = some a) : EndsWith p a
  | bareName (hno : ∀ m ∈ p.after.head?, m.kind.isTagEnd = false) (h : p.attributes = []) :
      EndsWith p p.name

/-- The element that shows the tag. -/
structure Shown (source : Text) (p : Pieces children) (e : Element) : Prop where
  tagName_eq : e.tagName = p.name.textIn source
  attributes : List.Forall₂ (fun n a => n.attribute? source = some a)
    (p.attributes.filter isNamed) e.attributes
  start_eq : e.outer.start = p.bracket.start
  ending : ∃ last, p.EndsWith last ∧ e.outer.stop = last.stop
  inner_eq : e.inner = e.outer.endpoint

/-! ## Which child is which -/

theorem getElem?_bracket (p : Pieces children) : children[p.place]? = some p.bracket := by
  simp [p.children_eq, place]

theorem getElem?_name (p : Pieces children) : children[p.place + 1]? = some p.name := by
  simp [p.children_eq, place]

theorem drop_children (p : Pieces children) :
    children.drop (p.place + 2) = p.attributes ++ p.after := by
  simp [p.children_eq, place, List.drop_append]

theorem getElem?_add (p : Pieces children) (k : Nat) :
    children[p.place + 2 + k]? = (p.attributes ++ p.after)[k]? := by
  rw [← p.drop_children, List.getElem?_drop]

theorem getElem?_stop (p : Pieces children) : children[p.stop]? = p.after.head? := by
  rw [stop, getElem?_add, List.getElem?_append_right (Nat.le_refl _), Nat.sub_self,
    List.head?_eq_getElem?]

theorem Owns.kind_eq {j : Nat} (h : p.Owns j) : ∃ a, children[j]? = some a ∧ a.kind = .attr := by
  obtain ⟨k, rfl⟩ := Nat.exists_eq_add_of_le h.1
  have hk : k < p.attributes.length := Nat.lt_of_add_lt_add_left h.2
  rw [getElem?_add, List.getElem?_append_left hk, List.getElem?_eq_getElem hk]
  exact ⟨_, rfl, p.attributes_kind _ (List.getElem_mem hk)⟩

/-- A pair has its pieces: the attributes behind it end where something else stands. -/
theorem exists_of_pairAt {i : Nat} (h : PairAt children i) :
    ∃ p : Pieces children, p.place = i := by
  obtain ⟨bracket, name, hbracket, hname, hopen, hkind⟩ := h
  obtain ⟨hi, rfl⟩ := List.getElem?_eq_some_iff.mp hbracket
  obtain ⟨hi', rfl⟩ := List.getElem?_eq_some_iff.mp hname
  let rest := children.drop (i + 2)
  refine ⟨{
    before := children.take i, bracket := children[i], name := children[i + 1]
    attributes := rest.takeWhile (·.kind = .attr), after := rest.dropWhile (·.kind = .attr)
    children_eq := ?_, bracket_kind := hopen, name_kind := hkind
    attributes_kind := ?_, after_kind := ?_ }, ?_⟩
  · rw [List.takeWhile_append_dropWhile, List.getElem_cons_drop, List.getElem_cons_drop,
      List.take_append_drop]
  · intro a ha
    have := List.mem_takeWhile_imp ha
    exact of_decide_eq_true this
  · intro n hn
    have := List.head?_dropWhile_not (fun n : Node => decide (n.kind = .attr)) rest
    rw [Option.mem_def.mp hn] at this
    exact of_decide_eq_false this
  · exact List.length_take_of_le hi.le

/-! ## The element of the pieces -/

theorem takeWhile_eq (p : Pieces children) :
    (p.attributes ++ p.after).takeWhile (·.kind = .attr) = p.attributes := by
  rw [List.takeWhile_append_of_pos fun a ha => decide_eq_true (p.attributes_kind a ha)]
  cases hafter : p.after with
  | nil => exact List.append_nil _
  | cons n rest =>
      have hne : n.kind ≠ .attr := p.after_kind n (by rw [hafter]; rfl)
      rw [List.takeWhile_cons_of_neg (by simpa using hne), List.append_nil]

theorem dropWhile_eq (p : Pieces children) :
    (p.attributes ++ p.after).dropWhile (·.kind = .attr) = p.after := by
  have h := List.takeWhile_append_dropWhile (p := fun n : Node => decide (n.kind = .attr))
    (l := p.attributes ++ p.after)
  rw [p.takeWhile_eq] at h
  exact List.append_cancel_left h

theorem endsWith_tagEnding (p : Pieces children) :
    p.EndsWith (tagEnding p.name (p.attributes ++ p.after)) := by
  rw [tagEnding, p.takeWhile_eq, p.dropWhile_eq]
  cases hend : p.after.head?.filter (·.kind.isTagEnd) with
  | some m =>
      obtain ⟨hm, hkind⟩ := Option.filter_eq_some_iff.mp hend
      exact .mark hm hkind
  | none =>
      have hno : ∀ m ∈ p.after.head?, m.kind.isTagEnd = false := by
        intro m hm
        exact Bool.eq_false_iff.mpr (Option.filter_eq_none_iff.mp hend m hm)
      rw [Option.getD_none]
      cases hlast : p.attributes.getLast? with
      | some a => exact .lastAttribute hno hlast
      | none => exact .bareName hno (List.getLast?_eq_none_iff.mp hlast)

theorem shown (h : looseElementAt? source children p.place = some e) : p.Shown source e := by
  rw [looseElementAt?, p.getElem?_bracket, p.getElem?_name, p.drop_children] at h
  obtain rfl := Option.some.inj h
  refine ⟨rfl, ?_, rfl, ⟨_, p.endsWith_tagEnding, rfl⟩, rfl⟩
  rw [looseElement, p.takeWhile_eq]
  exact forall₂_filterMap_attribute? _

/-! ## Tags follow one another -/

/-- Behind the bracket of a tag and up to its last node there is no other bracket. -/
theorem kind_ne_tagOpen {j : Nat} {n : Node} (hn : children[j]? = some n) (hj : p.place < j)
    (hstop : j < p.stop) : n.kind ≠ .tagOpen := by
  obtain rfl | hlt := Nat.eq_or_lt_of_le hj
  · obtain rfl := Option.some.inj (hn.symm.trans p.getElem?_name)
    rw [p.name_kind]
    nofun
  · obtain ⟨a, ha, hkind⟩ := Owns.kind_eq (p := p) ⟨hlt, hstop⟩
    obtain rfl := Option.some.inj (hn.symm.trans ha)
    rw [hkind]
    nofun

theorem stop_le_place (h : p.place < q.place) : p.stop ≤ q.place := by
  by_contra hlt
  exact kind_ne_tagOpen q.getElem?_bracket h (Nat.lt_of_not_le hlt) q.bracket_kind

theorem EndsWith.getElem? (h : p.EndsWith last) :
    ∃ j, children[j]? = some last ∧ p.place < j ∧ j ≤ p.stop ∧ last.kind ≠ .tagOpen := by
  have hname : p.name.kind ≠ .tagOpen := by rw [p.name_kind]; nofun
  cases h with
  | mark hm hend =>
      refine ⟨p.stop, p.getElem?_stop.trans hm, by rw [stop]; omega, Nat.le_refl _, ?_⟩
      intro hopen
      rw [hopen] at hend
      cases hend
  | lastAttribute hno ha =>
      have hmem : last ∈ p.attributes := List.mem_of_getLast? ha
      obtain ⟨k, hk, rfl⟩ := List.mem_iff_getElem.mp hmem
      refine ⟨p.place + 2 + k, ?_, by omega, by rw [stop]; omega, ?_⟩
      · rw [getElem?_add, List.getElem?_append_left hk, List.getElem?_eq_getElem hk]
      · rw [p.attributes_kind _ hmem]
        nofun
  | bareName hno hnil => exact ⟨p.place + 1, p.getElem?_name, by omega, by rw [stop]; omega, hname⟩

theorem Shown.stop_le_start (hin : InOrder children) (h : p.Shown source e)
    (h' : q.Shown source e') (hpq : p.place < q.place) : e.outer.stop ≤ e'.outer.start := by
  obtain ⟨last, hlast, hstop⟩ := h.ending
  obtain ⟨j, hj, -, hle, hkind⟩ := hlast.getElem?
  have hne : j ≠ q.place := by
    rintro rfl
    obtain rfl := Option.some.inj (hj.symm.trans q.getElem?_bracket)
    exact hkind q.bracket_kind
  have hlt : j < q.place := Nat.lt_of_le_of_ne (hle.trans (stop_le_place hpq)) hne
  rw [hstop, h'.start_eq]
  exact hin.stop_le_start hj q.getElem?_bracket hlt

theorem Shown.start_le_stop (hin : InOrder children) (h : p.Shown source e) :
    e.outer.start ≤ e.outer.stop := by
  obtain ⟨last, hlast, hstop⟩ := h.ending
  obtain ⟨j, hj, hlt, -⟩ := hlast.getElem?
  rw [h.start_eq, hstop]
  calc p.bracket.start ≤ p.bracket.stop := hin.range _ (List.mem_of_getElem? p.getElem?_bracket)
    _ ≤ last.start := hin.stop_le_start p.getElem?_bracket hj hlt
    _ ≤ last.stop := hin.range _ (List.mem_of_getElem? hj)

end Pieces

namespace Node

variable {source : Text} {n : Node}

end Node

end Explainer.Markup
