import Explainer.Markup.Element
import Mathlib.Data.List.Basic

/-!
# Opening tags in pieces

Where an opening tag fits no rule its tokens are left among the children of an
error node, and `collectLoose` puts them together again on one pass over these
children. It carries along what it has seen of a tag that may go on, and the
child before the current one.

The result does not depend on that state. Every bracket with a name right
after it is a tag (`looseStarts`), and the tag ends where its attributes do, or
with the end mark behind them (`looseElement`): both can be read off the
children at that place. `collectLoose_eq` says so for any state in which the
pass may be; the tag that is carried along adds one element, and the child
before counts as the first of those to come.
-/

namespace Explainer.Markup

namespace Node

/-- The node with which a tag ends, given the last node that is known to belong to it and those
after it: an end mark behind its attributes, or else the last of these. -/
def tagEnding (last : Node) (after : List Node) : Node :=
  ((after.dropWhile (·.kind = .attr)).head?.filter (·.kind.isTagEnd)).getD
    ((after.takeWhile (·.kind = .attr)).getLast?.getD last)

/-- The element of a tag in pieces, given its bracket, its name and the nodes after them. -/
def looseElement (source : Text) (bracket name : Node) (after : List Node) : Element :=
  let extent : Extent := ⟨bracket.start, (tagEnding name after).stop⟩
  ⟨name.textIn source, (after.takeWhile (·.kind = .attr)).filterMap (attribute? source), extent,
    extent.endpoint⟩

/-- Whether a tag in pieces starts with the child of the given number. -/
def startsLoose (children : List Node) (i : Nat) : Bool :=
  children[i]?.any (·.kind = .tagOpen) && children[i + 1]?.any (·.kind = .tagName)

/-- The children with which tags in pieces start. -/
def looseStarts (children : List Node) : List Nat :=
  (List.range children.length).filter (startsLoose children)

/-- The element of the tag that starts with the child of the given number. -/
def looseElementAt? (source : Text) (children : List Node) (i : Nat) : Option Element := do
  let bracket ← children[i]?
  let name ← children[i + 1]?
  return looseElement source bracket name (children.drop (i + 2))

theorem mem_looseStarts {children : List Node} {i : Nat} :
    i ∈ looseStarts children ↔ ∃ bracket name, children[i]? = some bracket ∧
      children[i + 1]? = some name ∧ bracket.kind = .tagOpen ∧ name.kind = .tagName := by
  rw [looseStarts, List.mem_filter, List.mem_range, startsLoose, Bool.and_eq_true,
    Option.any_eq_true, Option.any_eq_true]
  constructor
  · rintro ⟨-, ⟨bracket, hb, hopen⟩, name, hn, hname⟩
    exact ⟨bracket, name, hb, hn, of_decide_eq_true hopen, of_decide_eq_true hname⟩
  · rintro ⟨bracket, name, hb, hn, hopen, hname⟩
    exact ⟨(List.getElem?_eq_some_iff.mp hb).1, ⟨bracket, hb, decide_eq_true hopen⟩,
      name, hn, decide_eq_true hname⟩

theorem nodup_looseStarts (children : List Node) : (looseStarts children).Nodup :=
  List.nodup_range.filter _

theorem looseStarts_cons (n : Node) (rest : List Node) :
    looseStarts (n :: rest)
      = (if startsLoose (n :: rest) 0 then [0] else []) ++ (looseStarts rest).map (· + 1) := by
  rw [looseStarts, List.length_cons, List.range_succ_eq_map, List.filter_cons, List.filter_map]
  cases startsLoose (n :: rest) 0 <;> rfl

/-! ## The tag that is carried along -/

variable {source : Text}

theorem tagEnding_cons_of_attr (last : Node) {n : Node} (rest : List Node) (h : n.kind = .attr) :
    tagEnding last (n :: rest) = tagEnding n rest := by
  simp only [tagEnding, List.dropWhile_cons, List.takeWhile_cons, h, decide_true, if_true,
    List.getLast?_cons, Option.getD_some]

theorem tagEnding_cons_of_ne (last : Node) {n : Node} (rest : List Node) (h : n.kind ≠ .attr) :
    tagEnding last (n :: rest) = if n.kind.isTagEnd then n else last := by
  simp only [tagEnding, List.dropWhile_cons, List.takeWhile_cons, h, decide_false,
    Bool.false_eq_true, if_false, List.head?_cons, List.getLast?_nil, Option.getD_none,
    Option.filter_some]
  cases n.kind.isTagEnd <;> rfl

/-- The tag that is carried along, when the pass has gone over the nodes that may belong to it. -/
def LooseTag.completed (source : Text) (t : LooseTag) : List Node → Element
  | [] => t.element
  | n :: rest =>
    if n.kind = .attr then (t.withAttribute source n).completed source rest
    else (if n.kind.isTagEnd then t.upTo n else t).element

/-- What has been seen of a tag is part of what it will be. -/
theorem LooseTag.completed_eq (name : Text) (attributes : List Attribute) (start : Nat)
    (last : Node) (after : List Node) :
    (LooseTag.mk name attributes ⟨start, last.stop⟩).completed source after
      = ⟨name, attributes ++ (after.takeWhile (·.kind = .attr)).filterMap (attribute? source),
          ⟨start, (tagEnding last after).stop⟩,
          (Extent.mk start (tagEnding last after).stop).endpoint⟩ := by
  induction after generalizing attributes last with
  | nil =>
      rw [List.takeWhile_nil, List.filterMap_nil, List.append_nil]
      rfl
  | cons n rest ih =>
      rw [completed]
      by_cases h : n.kind = .attr
      · have hattributes : attributes ++ (attribute? source n).toList
              ++ (rest.takeWhile (·.kind = .attr)).filterMap (attribute? source)
            = attributes
              ++ ((n :: rest).takeWhile (·.kind = .attr)).filterMap (attribute? source) := by
          rw [List.takeWhile_cons_of_pos (by simpa using h), List.append_assoc]
          cases ha : attribute? source n with
          | none => rw [List.filterMap_cons_none ha]; rfl
          | some a => rw [List.filterMap_cons_some ha]; rfl
        rw [if_pos h, tagEnding_cons_of_attr last rest h, ← hattributes]
        exact ih _ n
      · rw [if_neg h, tagEnding_cons_of_ne last rest h,
          List.takeWhile_cons_of_neg (by simpa using h), List.filterMap_nil, List.append_nil]
        cases n.kind.isTagEnd <;> rfl

/-! ## The pass -/

/-- The tag that starts with the child before the current one, if one does. -/
theorem map_looseStarts_cons (previous : Option Node) (n : Node) (rest : List Node) :
    (looseStarts (previous.toList ++ n :: rest)).map
        (looseElementAt? source (previous.toList ++ n :: rest))
      = ((if n.kind = .tagName then previous.filter (·.kind = .tagOpen) else none).toList.map
          fun bracket => some (looseElement source bracket n rest))
        ++ (looseStarts (n :: rest)).map (looseElementAt? source (n :: rest)) := by
  cases previous with
  | none => split <;> rfl
  | some p =>
      have hstarts : startsLoose (p :: n :: rest) 0
          = (decide (p.kind = .tagOpen) && decide (n.kind = .tagName)) := rfl
      rw [Option.toList_some, List.singleton_append, looseStarts_cons, List.map_append,
        List.map_map, hstarts, Option.filter_some]
      refine congrArg (· ++ _) ?_
      by_cases hopen : p.kind = .tagOpen <;> by_cases hname : n.kind = .tagName
      · rw [if_pos (by simp [hopen, hname]), if_pos hname, if_pos (by simpa using hopen)]
        rfl
      · rw [if_neg (by simp [hname]), if_neg hname]
        rfl
      · rw [if_neg (by simp [hopen]), if_pos hname, if_neg (by simpa using hopen)]
        rfl
      · rw [if_neg (by simp [hopen]), if_neg hname]
        rfl

/-- What the pass collects from any state in which it may be. -/
theorem collectLoose_eq (previous : Option Node) (pending : Option LooseTag)
    (rest : List Node) :
    (collectLoose source previous pending rest).map some
      = pending.toList.map (fun t => some (t.completed source rest))
        ++ (looseStarts (previous.toList ++ rest)).map
          (looseElementAt? source (previous.toList ++ rest)) := by
  induction rest generalizing previous pending with
  | nil =>
      have hnone : looseStarts (previous.toList ++ []) = [] := by
        cases previous with
        | none => rfl
        | some p =>
            rw [List.append_nil, Option.toList_some, looseStarts_cons]
            simp [startsLoose, looseStarts]
      rw [hnone, List.map_nil, List.append_nil, collectLoose, List.map_map]
      rfl
  | cons n rest ih =>
      rw [map_looseStarts_cons, collectLoose]
      by_cases hattr : n.kind = .attr
      · -- The attribute goes to the tag that is carried along, if there is one.
        have hname : n.kind ≠ .tagName := by rw [hattr]; nofun
        rw [if_pos hattr, ih, if_neg hname]
        cases pending with
        | none => rfl
        | some t => simp [LooseTag.completed, hattr]
      · -- The tag that is carried along ends here, and a new one may start.
        rw [if_neg hattr, List.map_append, ih]
        refine congrArg₂ (· ++ ·) ?_ (congrArg₂ (· ++ ·) ?_ rfl)
        · cases pending with
          | none => rfl
          | some t => simp [LooseTag.completed, hattr]
        · by_cases hname : n.kind = .tagName
          · rw [if_pos hname, if_pos hname]
            cases previous.filter (·.kind = .tagOpen) with
            | none => rfl
            | some bracket =>
                refine congrArg (fun e => [some e]) ?_
                exact LooseTag.completed_eq (n.textIn source) [] bracket.start n rest
          · rw [if_neg hname, if_neg hname]
            rfl

/-- The tags in pieces among the children of a node, in their order. -/
theorem looseTags_eq (n : Node) :
    (n.looseTags source).map some
      = (looseStarts n.children).map (looseElementAt? source n.children) :=
  collectLoose_eq none none n.children

end Node

end Explainer.Markup
