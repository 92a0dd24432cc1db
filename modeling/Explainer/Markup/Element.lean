import Explainer.Markup.Cursor
import Explainer.Markup.Fragment

/-!
# Elements of a markup text

The elements of a text are read off its tree, in the order in which they start. Where the markup
is malformed, an opening tag may stand outside any element, or may be left in pieces inside a
stretch that fits no rule: such a tag counts as an element without content.
-/

namespace Explainer.Markup

/-- An attribute as written. A bare one has no value. -/
structure Attribute where
  name : Text
  value : Option Text
deriving DecidableEq, Repr

/-- An element: its tag, and the ranges of the whole of it and of its content. -/
structure Element where
  tagName : Text
  attributes : List Attribute
  outer : Extent
  inner : Extent
deriving DecidableEq, Repr

namespace Element

/-- The value of the first attribute with a name, in any case; a bare one has the empty value. -/
def attribute? (e : Element) (name : Text) : Option Text :=
  (e.attributes.find? fun a => a.name.sameIgnoringCase name).map fun a => a.value.getD []

/-- An attribute counts if no earlier one has its name in some case. -/
theorem attribute?_eq_some_iff {e : Element} {name value : Text} :
    e.attribute? name = some value ↔ ∃ before a after, e.attributes = before ++ a :: after ∧
      (∀ b ∈ before, b.name.foldCase ≠ name.foldCase) ∧
      a.name.foldCase = name.foldCase ∧ a.value.getD [] = value := by
  have hname (a : Attribute) :
      a.name.sameIgnoringCase name = true ↔ a.name.foldCase = name.foldCase := by
    rw [Text.sameIgnoringCase, beq_iff_eq]
  rw [attribute?, Option.map_eq_some_iff]
  constructor
  · rintro ⟨a, ha, rfl⟩
    obtain ⟨hmatch, before, after, heq, hbefore⟩ := List.find?_eq_some_iff_append.mp ha
    refine ⟨before, a, after, heq, fun b hb h => ?_, (hname a).mp hmatch, rfl⟩
    have hno := hbefore b hb
    rw [(hname b).mpr h] at hno
    cases hno
  · rintro ⟨before, a, after, heq, hbefore, hmatch, rfl⟩
    refine ⟨a, List.find?_eq_some_iff_append.mpr ⟨(hname a).mpr hmatch, before, after, heq, ?_⟩,
      rfl⟩
    intro b hb
    rw [Bool.not_eq_true', Bool.eq_false_iff]
    exact fun h => hbefore b hb ((hname b).mp h)

theorem attribute?_eq_none_iff {e : Element} {name : Text} :
    e.attribute? name = none ↔ ∀ a ∈ e.attributes, a.name.foldCase ≠ name.foldCase := by
  rw [attribute?, Option.map_eq_none_iff, List.find?_eq_none]
  refine forall₂_congr fun a _ => not_congr ?_
  rw [Text.sameIgnoringCase, beq_iff_eq]

def hasAttribute (e : Element) (name : Text) : Bool :=
  e.attributes.any fun a => a.name.sameIgnoringCase name

def classes (e : Element) : List Text := ((e.attribute? "class".toList).getD []).words

def hasClass (e : Element) (name : Text) : Bool := e.classes.contains name

theorem hasClass_iff {e : Element} {name : Text} : e.hasClass name = true ↔ name ∈ e.classes :=
  List.contains_iff_mem

def outerMarkup (e : Element) (source : Text) : Text := source.slice e.outer.start e.outer.stop

/-- The markup between the tags of the element. -/
def innerMarkup (e : Element) (source : Text) : Text := source.slice e.inner.start e.inner.stop

end Element

namespace Node

def textIn (source : Text) (n : Node) : Text := source.slice n.start n.stop

/-- The value that a child gives to its attribute. -/
def attributeValue? (source : Text) (n : Node) : Option Text :=
  match n.kind with
  | .attributeValue => some (n.textIn source)
  | .quotedValue =>
    some (((n.children.find? (·.kind = .attributeValue)).map (textIn source)).getD [])
  | _ => none

/-- The attribute of an attribute node, if it has a name; the last name and the last value
count. -/
def attribute? (source : Text) (n : Node) : Option Attribute :=
  let names := (n.children.filter (·.kind = .attributeName)).map (textIn source)
  names.getLast?.map fun name =>
    ⟨name, (n.children.filterMap (attributeValue? source)).getLast?⟩

/-- The name in an opening tag; the last one counts. -/
def tagNameIn (source : Text) (n : Node) : Text :=
  (((n.children.filter (·.kind = .tagName)).map (textIn source)).getLast?).getD []

/-- The attributes in an opening tag. -/
def attributesIn (source : Text) (n : Node) : List Attribute :=
  (n.children.filter (·.kind = .attr)).filterMap (attribute? source)

/-- The range of the content of an element node that `tag` opens. -/
def contentExtent (n tag : Node) : Extent :=
  if tag.kind = .selfClosingTag then tag.extent.endpoint
  else
    let stop := match n.children.getLast? with
      | some last => if last.kind = .endTag then last.start else n.stop
      | none => n.stop
    ⟨tag.stop, max stop tag.stop⟩

/-- The element of an element node, if it has an opening tag. -/
def element? (source : Text) (n : Node) : Option Element :=
  (n.children.find? (·.kind.isOpenTag)).map fun tag =>
    ⟨tag.tagNameIn source, tag.attributesIn source, n.extent, n.contentExtent tag⟩

/-- The element of an opening tag that stands outside any element node. -/
def orphan (source : Text) (n : Node) : Element :=
  ⟨n.tagNameIn source, n.attributesIn source, n.extent, n.extent.endpoint⟩

/-- An opening tag in pieces: what has been seen of it. -/
structure LooseTag where
  name : Text
  attributes : List Attribute
  extent : Extent

namespace LooseTag

/-- The element of the tag. -/
def element (t : LooseTag) : Element := ⟨t.name, t.attributes, t.extent, t.extent.endpoint⟩

/-- The tag up to the end of one more node. -/
def upTo (t : LooseTag) (n : Node) : LooseTag :=
  { t with extent := ⟨t.extent.start, n.stop⟩ }

def withAttribute (t : LooseTag) (source : Text) (n : Node) : LooseTag :=
  { t.upTo n with attributes := t.attributes ++ (n.attribute? source).toList }

end LooseTag

/-- Collects the opening tags in pieces among the children of a stretch that fits no rule.
`previous` is the child before, `pending` the tag whose attributes may follow. -/
def collectLoose (source : Text) (previous : Option Node) (pending : Option LooseTag) :
    List Node → List Element
  | [] => pending.toList.map (·.element)
  | n :: rest =>
    if n.kind = .attr then
      collectLoose source (some n) (pending.map (·.withAttribute source n)) rest
    else
      let done := pending.toList.map fun t => (if n.kind.isTagEnd then t.upTo n else t).element
      let fresh : Option LooseTag :=
        if n.kind = .tagName then
          (previous.filter (·.kind = .tagOpen)).map fun b =>
            ⟨n.textIn source, [], ⟨b.start, n.stop⟩⟩
        else none
      done ++ collectLoose source (some n) fresh rest

/-- The opening tags in pieces directly inside a stretch that fits no rule. -/
def looseTags (source : Text) (n : Node) : List Element := collectLoose source none none n.children

/-- The elements that a node itself gives rise to, apart from those below it. -/
def ownElements (source : Text) (parent : Option Kind) (n : Node) : List Element :=
  if n.kind.isElement then (n.element? source).toList
  else if n.kind.isOpenTag then
    if parent.any Kind.isElement then [] else [n.orphan source]
  else if n.kind = .error then n.looseTags source
  else []

/-- The elements of the nodes that the walk comes to from a cursor on. -/
def elementsFrom (source : Text) (c : Cursor) : List Element :=
  ownElements source (c.parent?.map kind) c.node ++
    match _h : c.next? with
    | none => []
    | some c' => elementsFrom source c'
termination_by c.remaining
decreasing_by exact Cursor.next?_remaining ‹_›

/-- The elements of a tree, by where they start; of those that start together, the outer ones
first. -/
def elements (source : Text) (root : Node) : List Element :=
  (elementsFrom source (.ofRoot root)).mergeSort fun a b => a.outer.start ≤ b.outer.start

end Node

def Fragment.elements (f : Fragment) : List Element := f.root.elements f.source

end Explainer.Markup
