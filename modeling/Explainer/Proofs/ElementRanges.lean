import Explainer.Proofs.ByteSlices
import Explainer.Proofs.ElementOrder
import Explainer.Proofs.TagPieces

/-!
# The ranges of elements

An element has the range of the whole of it and that of its content, and both
are cut out of the text as they are. A range that is reversed, goes beyond the
text or starts inside a character cannot be cut out, so this file shows that
none does.

The parser is taken at its word for single nodes only (`Node.Fits`): they
stand at characters, their children in them and in order. Where the content of
an element starts and stops is computed in several ways from nodes that may be
children, siblings or mere tokens, and `Site.Spans` has a rule for each way. In
each of them the four places come out in order; the rest is the same for all
(`Element.Placed.safe`).
-/

namespace Explainer.Markup

namespace Node

/-- What the parser promises of a node. -/
structure Fits (source : Text) (n : Node) : Prop where
  start : source.IsBoundary n.start
  stop : source.IsBoundary n.stop
  range : n.start ≤ n.stop
  within : ∀ c ∈ n.children, n.start ≤ c.start ∧ c.stop ≤ n.stop
  inOrder : InOrder n.children

instance (source : Text) (n : Node) : Decidable (n.Fits source) :=
  decidable_of_iff
    (source.IsBoundary n.start ∧ source.IsBoundary n.stop ∧ n.start ≤ n.stop ∧
      (∀ c ∈ n.children, n.start ≤ c.start ∧ c.stop ≤ n.stop) ∧ InOrder n.children)
    ⟨fun ⟨h₁, h₂, h₃, h₄, h₅⟩ => ⟨h₁, h₂, h₃, h₄, h₅⟩,
      fun h => ⟨h.start, h.stop, h.range, h.within, h.inOrder⟩⟩

def Fitting (source : Text) (root : Node) : Prop := ∀ a n, root.at? a = some n → n.Fits source

variable {source : Text} {root n tag last : Node} {a : Address}

theorem fitting_iff : root.Fitting source ↔ ∀ v ∈ root.visits none, v.node.Fits source := by
  constructor
  · intro h v hv
    exact h v.place v.node (mem_visits.mp hv).1
  · intro h a n hn
    exact h ⟨a, root.parentAt none a, n⟩ (mem_visits.mpr ⟨hn, rfl⟩)

instance (source : Text) (root : Node) : Decidable (root.Fitting source) :=
  decidable_of_iff' _ fitting_iff

theorem Fitting.child (h : root.Fitting source) (hn : root.at? a = some n) {c : Node}
    (hc : c ∈ n.children) : c.Fits source := by
  obtain ⟨i, hi⟩ := List.mem_iff_getElem?.mp hc
  exact h (a ++ [i]) c ((at?_concat hn i).trans hi)

/-! ## Where the content stops -/

theorem contentExtent_selfClosing (h : tag.kind = .selfClosingTag) :
    n.contentExtent tag = ⟨tag.stop, tag.stop⟩ := by
  rw [contentExtent, if_pos h]
  rfl

/-- An opening tag is before an end tag that is last. -/
theorem Fits.stop_le_start (h : n.Fits source) (htag : tag ∈ n.children)
    (hopen : tag.kind.isOpenTag = true) (hlast : n.children.getLast? = some last)
    (hend : last.kind = .endTag) : tag.stop ≤ last.start := by
  obtain ⟨init, hinit⟩ := List.getLast?_eq_some_iff.mp hlast
  have hapart := h.inOrder.apart
  rw [hinit] at htag hapart
  rcases List.mem_append.mp htag with hmem | hmem
  · exact (List.pairwise_append.mp hapart).2.2 tag hmem last (List.mem_singleton_self last)
  · obtain rfl := List.mem_singleton.mp hmem
    rw [hend] at hopen
    cases hopen

theorem contentExtent_of_endTag (hkind : tag.kind ≠ .selfClosingTag)
    (hlast : n.children.getLast? = some last) (hend : last.kind = .endTag)
    (hle : tag.stop ≤ last.start) : n.contentExtent tag = ⟨tag.stop, last.start⟩ := by
  rw [contentExtent, if_neg hkind, hlast]
  simp only [hend, if_true, Nat.max_eq_left hle]

theorem contentExtent_of_no_endTag (hkind : tag.kind ≠ .selfClosingTag)
    (hno : ∀ last ∈ n.children.getLast?, last.kind ≠ .endTag) (hle : tag.stop ≤ n.stop) :
    n.contentExtent tag = ⟨tag.stop, n.stop⟩ := by
  rw [contentExtent, if_neg hkind]
  cases hlast : n.children.getLast? with
  | none => simp only [Nat.max_eq_left hle]
  | some last => simp only [hno last hlast, if_false, Nat.max_eq_left hle]

end Node

namespace Element

/-- The ends of both ranges stand at characters, and in order. -/
structure Placed (source : Text) (e : Element) : Prop where
  outer_start : source.IsBoundary e.outer.start
  inner_start : source.IsBoundary e.inner.start
  inner_stop : source.IsBoundary e.inner.stop
  outer_stop : source.IsBoundary e.outer.stop
  start_le : e.outer.start ≤ e.inner.start
  inner_le : e.inner.start ≤ e.inner.stop
  stop_le : e.inner.stop ≤ e.outer.stop

/-- Both ranges can be cut out of the text, the content from within the whole. -/
structure Safe (source : Text) (e : Element) : Prop extends Placed source e where
  le_length : e.outer.stop ≤ source.utf8Length
  inner? : source.slice? e.inner.start e.inner.stop = some (e.innerMarkup source)
  outer? : source.slice? e.outer.start e.outer.stop = some (e.outerMarkup source)
  within : e.innerMarkup source <:+: e.outerMarkup source

variable {source : Text} {e : Element}

theorem Placed.outerMarkup_eq (h : e.Placed source) :
    e.outerMarkup source = source.slice e.outer.start e.inner.start ++ e.innerMarkup source
      ++ source.slice e.inner.stop e.outer.stop := by
  have hinner : e.outer.start ≤ e.inner.stop := h.start_le.trans h.inner_le
  rw [outerMarkup, Text.slice_append h.outer_start h.inner_stop h.outer_stop hinner h.stop_le,
    Text.slice_append h.outer_start h.inner_start h.inner_stop h.start_le h.inner_le]
  rfl

theorem Placed.safe (h : e.Placed source) : e.Safe source where
  toPlaced := h
  le_length := h.outer_stop.le
  inner? := Text.slice?_eq_slice h.inner_start h.inner_stop h.inner_le
  outer? := Text.slice?_eq_slice h.outer_start h.outer_stop
    ((h.start_le.trans h.inner_le).trans h.stop_le)
  within := ⟨_, _, h.outerMarkup_eq.symm⟩

theorem placed_of_extents {i j k l : Nat} (houter : e.outer = ⟨i, l⟩) (hinner : e.inner = ⟨j, k⟩)
    (hi : source.IsBoundary i) (hj : source.IsBoundary j) (hk : source.IsBoundary k)
    (hl : source.IsBoundary l) (hij : i ≤ j) (hjk : j ≤ k) (hkl : k ≤ l) : e.Placed source := by
  obtain ⟨tagName, attributes, outer, inner⟩ := e
  obtain rfl : outer = ⟨i, l⟩ := houter
  obtain rfl : inner = ⟨j, k⟩ := hinner
  exact ⟨hi, hj, hk, hl, hij, hjk, hkl⟩

theorem innerMarkup_eq_nil {k : Nat} (hk : source.IsBoundary k) (hinner : e.inner = ⟨k, k⟩) :
    e.innerMarkup source = [] := by
  rw [innerMarkup, hinner]
  exact Text.slice_self hk

end Element

/-! ## One rule for each way -/

/-- How the ranges of an element come about from the nodes of its site. -/
inductive Site.Spans (source : Text) (root : Node) : Site → Element → Prop where
  /-- The tag closes itself, and there is nothing behind it. -/
  | selfClosed {a : Address} {n tag : Node} {e : Element} (hn : root.at? a = some n)
      (htag : n.children.find? (·.kind.isOpenTag) = some tag)
      (hkind : tag.kind = .selfClosingTag) (houter : e.outer = n.extent)
      (hinner : e.inner = ⟨tag.stop, tag.stop⟩) (hempty : e.innerMarkup source = []) :
      Spans source root ⟨a, .element⟩ e
  /-- The content is what is between the opening tag and the end tag. -/
  | closed {a : Address} {n tag last : Node} {e : Element} {opening ending : Text}
      (hn : root.at? a = some n) (htag : n.children.find? (·.kind.isOpenTag) = some tag)
      (hkind : tag.kind ≠ .selfClosingTag) (hlast : n.children.getLast? = some last)
      (hend : last.kind = .endTag) (houter : e.outer = n.extent)
      (hinner : e.inner = ⟨tag.stop, last.start⟩)
      (hopening : source.slice? n.start tag.stop = some opening)
      (hending : source.slice? last.start n.stop = some ending)
      (hmarkup : e.outerMarkup source = opening ++ e.innerMarkup source ++ ending) :
      Spans source root ⟨a, .element⟩ e
  /-- There is no end tag, and the content goes on to the end. -/
  | unclosed {a : Address} {n tag : Node} {e : Element} (hn : root.at? a = some n)
      (htag : n.children.find? (·.kind.isOpenTag) = some tag)
      (hkind : tag.kind ≠ .selfClosingTag)
      (hno : ∀ last ∈ n.children.getLast?, last.kind ≠ .endTag) (houter : e.outer = n.extent)
      (hinner : e.inner = ⟨tag.stop, n.stop⟩) : Spans source root ⟨a, .element⟩ e
  /-- The tag is all there is. -/
  | orphan {a : Address} {n : Node} {e : Element} (hn : root.at? a = some n)
      (hkind : n.kind.isOpenTag = true) (houter : e.outer = n.extent)
      (hinner : e.inner = ⟨n.stop, n.stop⟩) (hempty : e.innerMarkup source = []) :
      Spans source root ⟨a, .orphan⟩ e
  /-- So it is where the tag is in pieces. -/
  | loose {a : Address} {n : Node} {e : Element} {p : Pieces n.children}
      (hn : root.at? a = some n) (hkind : n.kind = .error) (hshown : p.Shown source e)
      (hinner : e.inner = ⟨e.outer.stop, e.outer.stop⟩) (hempty : e.innerMarkup source = []) :
      Spans source root ⟨a, .loose p.place⟩ e

namespace Site

variable {source : Text} {root n : Node} {a : Address} {e : Element} {s : Site}

/-- Content that starts behind the opening tag may stop anywhere from there to the end. -/
theorem placed_of_content {tag : Node} {k : Nat} (hnode : n.Fits source) (htag : tag.Fits source)
    (hmem : tag ∈ n.children) (houter : e.outer = n.extent) (hinner : e.inner = ⟨tag.stop, k⟩)
    (hk : source.IsBoundary k) (hle : tag.stop ≤ k) (hle' : k ≤ n.stop) : e.Placed source := by
  have hstart : n.start ≤ tag.stop := Nat.le_trans (hnode.within tag hmem).1 htag.range
  exact Element.placed_of_extents houter hinner hnode.start htag.stop hk hnode.stop hstart hle hle'

theorem spans_closed {tag last : Node} (h : root.Fitting source) (hn : root.at? a = some n)
    (htag : n.children.find? (·.kind.isOpenTag) = some tag) (hkind : tag.kind ≠ .selfClosingTag)
    (hlast : n.children.getLast? = some last) (hend : last.kind = .endTag)
    (houter : e.outer = n.extent) (hinner : e.inner = n.contentExtent tag) :
    Spans source root ⟨a, .element⟩ e ∧ e.Placed source := by
  have hmem : tag ∈ n.children := List.mem_of_find?_eq_some htag
  have hlastMem : last ∈ n.children := List.mem_of_getLast? hlast
  have hnode := h a n hn
  have htagFits := h.child hn hmem
  have hlastFits := h.child hn hlastMem
  have hle := hnode.stop_le_start hmem (by simpa using List.find?_some htag) hlast hend
  have hstart : n.start ≤ tag.stop := Nat.le_trans (hnode.within tag hmem).1 htagFits.range
  have hstop : last.start ≤ n.stop := Nat.le_trans hlastFits.range (hnode.within last hlastMem).2
  rw [Node.contentExtent_of_endTag hkind hlast hend hle] at hinner
  have hplaced := placed_of_content hnode htagFits hmem houter hinner hlastFits.start hle hstop
  refine ⟨.closed hn htag hkind hlast hend houter hinner
    (Text.slice?_eq_slice hnode.start htagFits.stop hstart)
    (Text.slice?_eq_slice hlastFits.start hnode.stop hstop) ?_, hplaced⟩
  rw [hplaced.outerMarkup_eq, houter, hinner]
  rfl

theorem spans_element (h : root.Fitting source) (hn : root.at? a = some n)
    (he : n.element? source = some e) :
    Spans source root ⟨a, .element⟩ e ∧ e.Placed source := by
  obtain ⟨tag, htag, heq⟩ := Option.map_eq_some_iff.mp he
  have houter : e.outer = n.extent := by rw [← heq]
  have hinner : e.inner = n.contentExtent tag := by rw [← heq]
  have hmem : tag ∈ n.children := List.mem_of_find?_eq_some htag
  have hnode := h a n hn
  have htagFits := h.child hn hmem
  have hlater : tag.stop ≤ n.stop := (hnode.within tag hmem).2
  by_cases hkind : tag.kind = .selfClosingTag
  · rw [Node.contentExtent_selfClosing hkind] at hinner
    refine ⟨.selfClosed hn htag hkind houter hinner
      (Element.innerMarkup_eq_nil htagFits.stop hinner), ?_⟩
    exact placed_of_content hnode htagFits hmem houter hinner htagFits.stop (Nat.le_refl _) hlater
  · by_cases hclosed : ∃ last, n.children.getLast? = some last ∧ last.kind = .endTag
    · obtain ⟨last, hlast, hend⟩ := hclosed
      exact spans_closed h hn htag hkind hlast hend houter hinner
    · have hno : ∀ last ∈ n.children.getLast?, last.kind ≠ .endTag :=
        fun last hlast hend => hclosed ⟨last, hlast, hend⟩
      rw [Node.contentExtent_of_no_endTag hkind hno hlater] at hinner
      refine ⟨.unclosed hn htag hkind hno houter hinner, ?_⟩
      exact placed_of_content hnode htagFits hmem houter hinner hnode.stop hlater (Nat.le_refl _)

theorem spans_orphan (h : root.Fitting source) (hn : root.at? a = some n)
    (hkind : n.kind.isOpenTag = true) :
    Spans source root ⟨a, .orphan⟩ (n.orphan source) ∧ (n.orphan source).Placed source := by
  have hnode := h a n hn
  refine ⟨.orphan hn hkind rfl rfl (Element.innerMarkup_eq_nil hnode.stop rfl), ?_⟩
  exact Element.placed_of_extents rfl rfl hnode.start hnode.stop hnode.stop hnode.stop
    hnode.range (Nat.le_refl _) (Nat.le_refl _)

theorem spans_loose (h : root.Fitting source) (hn : root.at? a = some n) (hkind : n.kind = .error)
    {p : Pieces n.children} (hp : p.Shown source e) :
    Spans source root ⟨a, .loose p.place⟩ e ∧ e.Placed source := by
  have hinner : e.inner = ⟨e.outer.stop, e.outer.stop⟩ := hp.inner_eq
  have hbracket := h.child hn (List.mem_of_getElem? p.getElem?_bracket)
  obtain ⟨last, hlast, hstop⟩ := hp.ending
  obtain ⟨j, hj, -⟩ := hlast.getElem?
  have hlastFits := h.child hn (List.mem_of_getElem? hj)
  have houterStart : source.IsBoundary e.outer.start := hp.start_eq ▸ hbracket.start
  have houterStop : source.IsBoundary e.outer.stop := hstop ▸ hlastFits.stop
  refine ⟨.loose hn hkind hp hinner (Element.innerMarkup_eq_nil houterStop hinner), ?_⟩
  exact Element.placed_of_extents rfl hinner houterStart houterStop houterStop houterStop
    (hp.start_le_stop (h a n hn).inOrder) (Nat.le_refl _) (Nat.le_refl _)

/-- Every site of a tree has its rule. -/
theorem In.spans (h : root.Fitting source) (hs : s.In root)
    (he : s.element? source root = some e) : Spans source root s e ∧ e.Placed source := by
  obtain ⟨a, role⟩ := s
  obtain ⟨n, hn, hrole⟩ := hs
  cases role with
  | element =>
      rw [element?_element hn] at he
      exact spans_element h hn he
  | orphan =>
      rw [element?_orphan hn] at he
      obtain rfl := Option.some.inj he
      exact spans_orphan h hn hrole.1
  | loose i =>
      obtain ⟨hkind, hpair⟩ := hrole
      obtain ⟨p, rfl⟩ := Pieces.exists_of_pairAt hpair
      rw [element?_loose hn] at he
      exact spans_loose h hn hkind (Pieces.shown he)

end Site

/-- Where the nodes of a text stand as promised, each of its elements can be cut out of it, with
its content inside, and the ranges are those of the nodes from which the element is read. -/
theorem Fragment.elements_spans (f : Fragment) (h : f.root.Fitting f.source) :
    (∃ order : List Site, order.Nodup ∧ (∀ s, s ∈ order ↔ s.In f.root) ∧
      List.Forall₂ (Site.Spans f.source f.root) order f.elements) ∧
    ∀ e ∈ f.elements, e.Safe f.source := by
  let order := f.root.siteOrder f.source
  have hread : List.Forall₂ (fun s e => s ∈ order ∧ s.element? f.source f.root = some e)
      order f.elements := by
    rw [List.forall₂_and_left]
    exact ⟨fun s hs => hs, forall₂_of_map_eq (f.root.map_element?_siteOrder f.source)⟩
  have hspans : List.Forall₂ (fun s e => Site.Spans f.source f.root s e ∧ e.Placed f.source)
      order f.elements :=
    hread.imp fun s e hse => (Node.mem_siteOrder.mp hse.1).spans h hse.2
  refine ⟨⟨order, f.root.nodup_siteOrder f.source, fun s => Node.mem_siteOrder,
    hspans.imp fun s e hse => hse.1⟩, ?_⟩
  intro e he
  obtain ⟨s, -, hse⟩ := exists_of_forall₂ hspans he
  exact hse.2.safe

/-- A text with a case for each rule: `ul` is closed, `li` is not, `br` closes itself, `i` has no
element node, and `em` is in pieces. -/
def unbalanced : Fragment where
  source := "<ul><li>é<br/></ul><i><em".toList
  root := .mk .document ⟨0, 26⟩
    [.mk .element ⟨0, 20⟩
      [.mk .startTag ⟨0, 4⟩
        [.mk .tagOpen ⟨0, 1⟩ [], .mk .tagName ⟨1, 3⟩ [], .mk .close ⟨3, 4⟩ []],
      .mk .element ⟨4, 15⟩
        [.mk .startTag ⟨4, 8⟩
          [.mk .tagOpen ⟨4, 5⟩ [], .mk .tagName ⟨5, 7⟩ [], .mk .close ⟨7, 8⟩ []],
        .mk .text ⟨8, 10⟩ [],
        .mk .element ⟨10, 15⟩ [.mk .selfClosingTag ⟨10, 15⟩
          [.mk .tagOpen ⟨10, 11⟩ [], .mk .tagName ⟨11, 13⟩ [], .mk .selfClose ⟨13, 15⟩ []]]],
      .mk .endTag ⟨15, 20⟩
        [.mk .mark ⟨15, 17⟩ [], .mk .tagName ⟨17, 19⟩ [], .mk .close ⟨19, 20⟩ []]],
    .mk .error ⟨20, 26⟩
      [.mk .startTag ⟨20, 23⟩
        [.mk .tagOpen ⟨20, 21⟩ [], .mk .tagName ⟨21, 22⟩ [], .mk .close ⟨22, 23⟩ []],
      .mk .tagOpen ⟨23, 24⟩ [], .mk .tagName ⟨24, 26⟩ []]]
  hasErrors := true

theorem Fragment.elements_spans_unbalanced :
    unbalanced.root.Fitting unbalanced.source ∧
      unbalanced.elements.map (fun e => (e.tagName, e.innerMarkup unbalanced.source))
        = [("ul".toList, "<li>é<br/>".toList), ("li".toList, "é<br/>".toList),
          ("br".toList, []), ("i".toList, []), ("em".toList, [])] ∧
      (∃ order : List Site, order.length = 5 ∧
        List.Forall₂ (Site.Spans unbalanced.source unbalanced.root) order unbalanced.elements) ∧
      ∀ e ∈ unbalanced.elements, e.Safe unbalanced.source := by
  have hfitting : unbalanced.root.Fitting unbalanced.source := by decide +kernel
  -- The walk finds `em` before `i`, at the error node.
  have hfrom : Node.elementsFrom unbalanced.source (.ofRoot unbalanced.root)
      = [⟨"ul".toList, [], ⟨0, 20⟩, ⟨4, 15⟩⟩, ⟨"li".toList, [], ⟨4, 15⟩, ⟨8, 15⟩⟩,
        ⟨"br".toList, [], ⟨10, 15⟩, ⟨15, 15⟩⟩, ⟨"em".toList, [], ⟨23, 26⟩, ⟨26, 26⟩⟩,
        ⟨"i".toList, [], ⟨20, 23⟩, ⟨23, 23⟩⟩] := by decide +kernel
  have helements : unbalanced.elements
      = [⟨"ul".toList, [], ⟨0, 20⟩, ⟨4, 15⟩⟩, ⟨"li".toList, [], ⟨4, 15⟩, ⟨8, 15⟩⟩,
        ⟨"br".toList, [], ⟨10, 15⟩, ⟨15, 15⟩⟩, ⟨"i".toList, [], ⟨20, 23⟩, ⟨23, 23⟩⟩,
        ⟨"em".toList, [], ⟨23, 26⟩, ⟨26, 26⟩⟩] := by
    rw [Fragment.elements, Node.elements, hfrom]
    simp [List.mergeSort, List.MergeSort.Internal.splitInTwo]
  obtain ⟨⟨order, -, -, hspans⟩, hsafe⟩ := Fragment.elements_spans unbalanced hfitting
  refine ⟨hfitting, ?_, ⟨order, ?_, hspans⟩, hsafe⟩
  · rw [helements]
    decide +kernel
  · rw [hspans.length_eq, helements]
    rfl

end Explainer.Markup
