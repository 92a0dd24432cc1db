import Explainer.Proofs.LooseTags
import Explainer.Proofs.TreeWalk
import Mathlib.Data.List.Nodup

/-!
# The elements of a text and where they come from

An element of a text stands for one of three things in its tree: an element
node that has an opening tag, an opening tag under no element node, or a tag
in pieces under an error node. A `Site` is such a thing with its address, and
the elements are the sites of the tree, each once, in another dress
(`DocumentOrder`).

Their order is that of their starts, by a stable sort of the order in which the
walk finds them. The walk finds what is above before what is below
(`Node.pairwise_sites`), but it finds the tags in pieces when it comes to their
error node, and so too early. The sort puts these right, and it leaves what is
above before what is below, because in nested ranges nothing starts before what
is above it (`Site.Above.start_le`).
-/

namespace Explainer.Markup

/-- How a node gives rise to an element. -/
inductive Role where
  /-- It is an element node that has an opening tag. -/
  | element
  /-- It is an opening tag under no element node. -/
  | orphan
  /-- It is an error node, and a tag in pieces starts with its child of the given number. -/
  | loose (i : Nat)
deriving DecidableEq, Repr

/-- What an element stands for: a node with one of its roles. -/
structure Site where
  place : Address
  role : Role
deriving DecidableEq, Repr

namespace Site

/-- Whether the site is one of the tree. -/
def In (root : Node) (s : Site) : Prop :=
  ∃ n, root.at? s.place = some n ∧
    match s.role with
    | .element => n.kind.isElement = true ∧ ∃ tag ∈ n.children, tag.kind.isOpenTag = true
    | .orphan => n.kind.isOpenTag = true ∧ ∀ a i above, s.place = a ++ [i] →
        root.at? a = some above → above.kind.isElement = false
    | .loose i => n.kind = .error ∧ ∃ bracket name, n.children[i]? = some bracket ∧
        n.children[i + 1]? = some name ∧ bracket.kind = .tagOpen ∧ name.kind = .tagName

/-- The element that stands for the site. -/
def element? (source : Text) (root : Node) (s : Site) : Option Element := do
  let n ← root.at? s.place
  match s.role with
  | .element => n.element? source
  | .orphan => some (n.orphan source)
  | .loose i => Node.looseElementAt? source n.children i

/-- Where the nodes of the site stand. -/
def nodes (s : Site) : List Address :=
  match s.role with
  | .element | .orphan => [s.place]
  | .loose i => [s.place ++ [i], s.place ++ [i + 1]]

/-- Whether a node of one site stands above a node of another. -/
def Above (s s' : Site) : Prop := ∃ a ∈ s.nodes, ∃ b ∈ s'.nodes, a <+: b ∧ a ≠ b

/-- Where the opening tag stands from which the element of the site is read, if it is in one
piece. -/
def openTag? (root : Node) (s : Site) : Option Address :=
  match s.role with
  | .element => do
    let n ← root.at? s.place
    let i ← n.children.findIdx? (·.kind.isOpenTag)
    return s.place ++ [i]
  | .orphan => some s.place
  | .loose _ => none

end Site

/-! ## The sites that the walk finds -/

/-- The sites of a node that the walk comes to. -/
def Visit.sites (v : Visit) : List Site :=
  if v.node.kind.isElement then
    if v.node.children.any (·.kind.isOpenTag) then [⟨v.place, .element⟩] else []
  else if v.node.kind.isOpenTag then
    if v.parent.any Kind.isElement then [] else [⟨v.place, .orphan⟩]
  else if v.node.kind = .error then
    (Node.looseStarts v.node.children).map fun i => ⟨v.place, .loose i⟩
  else []

/-- The sites of a tree, in the order of the walk. -/
def Node.sites (root : Node) : List Site := (root.visits none).flatMap Visit.sites

variable {source : Text} {root : Node} {v : Visit} {s s' : Site}

theorem Kind.isElement_of_isOpenTag {k : Kind} (h : k.isOpenTag = true) : k.isElement = false := by
  cases k <;> first | rfl | cases h

namespace Site

variable {n : Node} {p : Address}

theorem element?_element (hn : root.at? p = some n) :
    element? source root ⟨p, .element⟩ = n.element? source := by
  rw [element?, hn]
  rfl

theorem element?_orphan (hn : root.at? p = some n) :
    element? source root ⟨p, .orphan⟩ = some (n.orphan source) := by
  rw [element?, hn]
  rfl

theorem element?_loose (hn : root.at? p = some n) (i : Nat) :
    element? source root ⟨p, .loose i⟩ = Node.looseElementAt? source n.children i := by
  rw [element?, hn]
  rfl

end Site

/-- What a node gives rise to are the elements of its sites. -/
theorem Visit.map_element? (h : root.at? v.place = some v.node) :
    v.sites.map (·.element? source root)
      = (Node.ownElements source v.parent v.node).map some := by
  unfold sites Node.ownElements
  split
  · -- an element node
    rw [← List.isSome_find?, Node.element?]
    cases htag : v.node.children.find? (·.kind.isOpenTag) with
    | none => rfl
    | some tag =>
        rw [Option.isSome_some, if_pos rfl, List.map_singleton, Site.element?_element h,
          Node.element?, htag]
        rfl
  · split
    · -- an opening tag
      cases v.parent.any Kind.isElement with
      | true => rfl
      | false =>
          rw [if_neg Bool.false_ne_true, if_neg Bool.false_ne_true, List.map_singleton,
            Site.element?_orphan h]
          rfl
    · split
      · -- an error node
        rw [List.map_map, Node.looseTags_eq]
        exact List.map_congr_left fun i _ => Site.element?_loose h i
      · rfl

/-- The walk finds the sites of the elements that it collects. -/
theorem Node.map_element?_sites (source : Text) (root : Node) :
    root.sites.map (·.element? source root) = (elementsFrom source (.ofRoot root)).map some := by
  rw [sites, elementsFrom_ofRoot, List.map_flatMap, List.map_flatMap]
  refine List.flatMap_congr fun v hv => ?_
  exact Visit.map_element? (mem_visits.mp hv).1

/-- No element node stands above an address if, as the walk has it, the parent there is none. -/
theorem Node.parentAt_isElement_iff {a : Address} {n : Node} (h : root.at? a = some n) :
    (root.parentAt none a).any Kind.isElement = false ↔
      ∀ b i above, a = b ++ [i] → root.at? b = some above → above.kind.isElement = false := by
  rcases List.eq_nil_or_concat' a with rfl | ⟨b, i, rfl⟩
  · refine iff_of_true rfl fun b i above heq => ?_
    exact absurd heq.symm (List.append_ne_nil_of_right_ne_nil b (List.cons_ne_nil i []))
  · rw [at?_append] at h
    obtain ⟨above, habove, -⟩ := Option.bind_eq_some_iff.mp h
    rw [← at?_append, at?_concat habove] at h
    rw [parentAt_concat none habove (List.getElem?_eq_some_iff.mp h).1, Option.any_some]
    constructor
    · intro hkind b' i' above' heq habove'
      obtain ⟨rfl, -⟩ := List.append_inj' heq rfl
      obtain rfl := Option.some.inj (habove.symm.trans habove')
      exact hkind
    · exact fun hall => hall b i above rfl habove

/-- The sites of a visited node are those of the tree at its address. -/
theorem Visit.mem_sites (hn : root.at? v.place = some v.node)
    (hp : root.parentAt none v.place = v.parent) :
    s ∈ v.sites ↔ s.place = v.place ∧ s.In root := by
  obtain ⟨place, role⟩ := s
  constructor
  · intro hs
    unfold sites at hs
    split at hs
    · next helement =>
        split at hs
        · next hany =>
            cases List.mem_singleton.mp hs
            exact ⟨rfl, v.node, hn, helement, List.any_eq_true.mp hany⟩
        · cases hs
    · split at hs
      · next hopen =>
          split at hs
          · cases hs
          · next hparent =>
              cases List.mem_singleton.mp hs
              refine ⟨rfl, v.node, hn, hopen, (Node.parentAt_isElement_iff hn).mp ?_⟩
              rw [hp]
              exact Bool.eq_false_iff.mpr hparent
      · split at hs
        · next herror =>
            obtain ⟨i, hi, heq⟩ := List.mem_map.mp hs
            cases heq
            exact ⟨rfl, v.node, hn, herror, Node.mem_looseStarts.mp hi⟩
        · cases hs
  · rintro ⟨rfl, n, hn', hrole⟩
    obtain rfl := Option.some.inj (hn.symm.trans hn')
    unfold sites
    cases role with
    | element =>
        rw [if_pos hrole.1, if_pos (List.any_eq_true.mpr hrole.2)]
        exact List.mem_singleton_self _
    | orphan =>
        have hparent := (Node.parentAt_isElement_iff hn).mpr hrole.2
        rw [hp] at hparent
        rw [Kind.isElement_of_isOpenTag hrole.1, if_neg Bool.false_ne_true, if_pos hrole.1,
          hparent, if_neg Bool.false_ne_true]
        exact List.mem_singleton_self _
    | loose i =>
        obtain ⟨herror, hstarts⟩ := hrole
        rw [herror, if_neg (by decide), if_neg (by decide), if_pos rfl]
        exact List.mem_map_of_mem (Node.mem_looseStarts.mpr hstarts)

theorem Node.mem_sites : s ∈ root.sites ↔ s.In root := by
  rw [sites, List.mem_flatMap]
  constructor
  · rintro ⟨v, hv, hs⟩
    obtain ⟨hn, hp⟩ := mem_visits.mp hv
    exact ((Visit.mem_sites hn hp).mp hs).2
  · intro hs
    have ⟨n, hn, _⟩ := hs
    exact ⟨⟨s.place, root.parentAt none s.place, n⟩, mem_visits.mpr ⟨hn, rfl⟩,
      (Visit.mem_sites hn rfl).mpr ⟨rfl, hs⟩⟩

/-! ## The order of the walk -/

/-- How far below the place of a site its nodes are. -/
def Role.depth : Role → Nat
  | element | orphan => 0
  | loose _ => 1

namespace Site

theorem mem_nodes {a : Address} (h : a ∈ s.nodes) :
    s.place <+: a ∧ a.length = s.place.length + s.role.depth := by
  obtain ⟨place, role⟩ := s
  cases role with
  | element | orphan =>
      obtain rfl := List.mem_singleton.mp h
      exact ⟨List.prefix_refl _, rfl⟩
  | loose i =>
      rcases List.mem_cons.mp h with rfl | h
      · exact ⟨List.prefix_append _ _, List.length_append⟩
      · obtain rfl := List.mem_singleton.mp h
        exact ⟨List.prefix_append _ _, List.length_append⟩

/-- What is above a node of a site is above, or at, the place of the site. -/
theorem prefix_place {a b : Address} (hb : b ∈ s.nodes) (hab : a <+: b) (hne : a ≠ b) :
    a <+: s.place := by
  obtain ⟨hplace, hlength⟩ := mem_nodes hb
  have hlt : a.length < b.length :=
    Nat.lt_of_le_of_ne hab.length_le fun h => hne (hab.eq_of_length h)
  have hdepth : s.role.depth ≤ 1 := by
    cases s.role with
    | element | orphan => exact Nat.zero_le 1
    | loose i => exact Nat.le_refl 1
  exact List.prefix_of_prefix_length_le hab hplace (by omega)

theorem Above.place_prefix (h : s.Above s') : s.place <+: s'.place := by
  obtain ⟨a, ha, b, hb, hab, hne⟩ := h
  exact (mem_nodes ha).1.trans (prefix_place hb hab hne)

theorem not_above (hplace : s.place = s'.place) (hdepth : s.role.depth = s'.role.depth) :
    ¬ s.Above s' := by
  rintro ⟨a, ha, b, hb, hab, hne⟩
  have ha := (mem_nodes ha).2
  have hb := (mem_nodes hb).2
  rw [hplace, hdepth] at ha
  exact hne (hab.eq_of_length (ha.trans hb.symm))

end Site

theorem Visit.pairwise_sites (v : Visit) :
    v.sites.Pairwise fun s s' => s ≠ s' ∧ ¬ s'.Above s := by
  unfold sites
  split
  · split
    · exact List.pairwise_singleton _ _
    · exact List.Pairwise.nil
  · split
    · split
      · exact List.Pairwise.nil
      · exact List.pairwise_singleton _ _
    · split
      · rw [List.pairwise_map]
        refine (Node.nodup_looseStarts v.node.children).imp fun hij => ⟨?_, ?_⟩
        · intro h
          cases h
          exact hij rfl
        · exact Site.not_above rfl rfl
      · exact List.Pairwise.nil

/-- The walk finds a site once, and none above it later. -/
theorem Node.pairwise_sites (root : Node) :
    root.sites.Pairwise fun s s' => s ≠ s' ∧ ¬ s'.Above s := by
  rw [sites, List.pairwise_flatMap]
  refine ⟨fun v _ => v.pairwise_sites, (visits_pairwise none root).imp_of_mem ?_⟩
  intro v w hv hw hprefix s hs s' hs'
  obtain ⟨hn, hp⟩ := mem_visits.mp hv
  obtain ⟨hn', hp'⟩ := mem_visits.mp hw
  obtain ⟨hplace, -⟩ := (Visit.mem_sites hn hp).mp hs
  obtain ⟨hplace', -⟩ := (Visit.mem_sites hn' hp').mp hs'
  rw [← hplace, ← hplace'] at hprefix
  exact ⟨fun h => hprefix (h ▸ List.prefix_refl _), fun h => hprefix h.place_prefix⟩

/-- Of two items of a list, the one comes first that may not come later. -/
theorem pair_sublist {α : Type} {R : α → α → Prop} {l : List α} (hl : l.Pairwise R) {a b : α}
    (ha : a ∈ l) (hb : b ∈ l) (hne : a ≠ b) (hR : ¬ R b a) : [a, b].Sublist l := by
  obtain ⟨before, after, rfl⟩ := List.append_of_mem ha
  rcases List.mem_append.mp hb with hb | hb
  · exact absurd ((List.pairwise_append.mp hl).2.2 b hb a List.mem_cons_self) hR
  · have hafter : [b].Sublist after :=
      List.singleton_sublist.mpr ((List.mem_cons.mp hb).resolve_left hne.symm)
    exact (hafter.cons_cons a).trans (List.sublist_append_right before (a :: after))

theorem Node.pair_sublist_sites (hs : s.In root) (hs' : s'.In root) (h : s.Above s') :
    [s, s'].Sublist root.sites := by
  refine pair_sublist root.pairwise_sites (mem_sites.mpr hs) (mem_sites.mpr hs') ?_
    fun hnot => hnot.2 h
  rintro rfl
  exact Site.not_above rfl rfl h

/-! ## The order of the starts -/

/-- Where the element of a site starts. -/
def Site.start (source : Text) (root : Node) (s : Site) : Nat :=
  ((s.element? source root).map (·.outer.start)).getD 0

/-- The sites of a tree, in the order of its elements. -/
def Node.siteOrder (source : Text) (root : Node) : List Site :=
  root.sites.mergeSort fun s s' => s.start source root ≤ s'.start source root

theorem Node.map_element?_siteOrder (source : Text) (root : Node) :
    (root.siteOrder source).map (·.element? source root) = (root.elements source).map some := by
  let starts : Option Element → Nat := fun e => (e.map (·.outer.start)).getD 0
  have hsome : ((elementsFrom source (.ofRoot root)).mergeSort
        fun a b => a.outer.start ≤ b.outer.start).map some
      = ((elementsFrom source (.ofRoot root)).map some).mergeSort
          fun e e' => starts e ≤ starts e' :=
    List.map_mergeSort fun _ _ _ _ => rfl
  calc (root.siteOrder source).map (·.element? source root)
      = (root.sites.map (·.element? source root)).mergeSort
          fun e e' => starts e ≤ starts e' := List.map_mergeSort fun _ _ _ _ => rfl
    _ = ((elementsFrom source (.ofRoot root)).map some).mergeSort
          fun e e' => starts e ≤ starts e' := by rw [map_element?_sites]
    _ = (root.elements source).map some := hsome.symm

theorem Node.mem_siteOrder : s ∈ root.siteOrder source ↔ s.In root := by
  rw [siteOrder, (List.mergeSort_perm _ _).mem_iff, mem_sites]

theorem Node.nodup_siteOrder (source : Text) (root : Node) : (root.siteOrder source).Nodup :=
  (List.mergeSort_perm _ _).nodup_iff.mpr (root.pairwise_sites.imp And.left)

/-- What an order by starts has to be, for it to be one. -/
theorem starts_trans {α : Type} (starts : α → Nat) (a b c : α)
    (hab : decide (starts a ≤ starts b) = true) (hbc : decide (starts b ≤ starts c) = true) :
    decide (starts a ≤ starts c) = true := by
  rw [decide_eq_true_eq] at *
  exact Nat.le_trans hab hbc

theorem starts_total {α : Type} (starts : α → Nat) (a b : α) :
    (decide (starts a ≤ starts b) || decide (starts b ≤ starts a)) = true := by
  rw [Bool.or_eq_true, decide_eq_true_eq, decide_eq_true_eq]
  exact Nat.le_total _ _

theorem Node.pairwise_elements (source : Text) (root : Node) :
    (root.elements source).Pairwise fun e e' => e.outer.start ≤ e'.outer.start := by
  have hsorted := List.pairwise_mergeSort (starts_trans fun e : Element => e.outer.start)
    (starts_total _) (elementsFrom source (.ofRoot root))
  exact hsorted.imp of_decide_eq_true

/-! ## Starts of nested sites -/

namespace Site

/-- The node with which a site starts: that of its bracket, for a tag in pieces. -/
def first (s : Site) : Address :=
  match s.role with
  | .element | .orphan => s.place
  | .loose i => s.place ++ [i]

theorem place_prefix_first (s : Site) : s.place <+: s.first := by
  obtain ⟨place, role⟩ := s
  cases role with
  | element | orphan => exact List.prefix_refl place
  | loose i => exact List.prefix_append place [i]

theorem In.start_eq (source : Text) (h : s.In root) :
    ∃ n, root.at? s.first = some n ∧ s.start source root = n.start := by
  obtain ⟨place, role⟩ := s
  obtain ⟨n, hn, hrole⟩ := h
  cases role with
  | element =>
      obtain ⟨-, tag, htag, hopen⟩ := hrole
      have hfind : (n.children.find? (·.kind.isOpenTag)).isSome :=
        List.find?_isSome.mpr ⟨tag, htag, hopen⟩
      obtain ⟨tag, htag⟩ := Option.isSome_iff_exists.mp hfind
      refine ⟨n, hn, ?_⟩
      rw [start, element?_element hn, Node.element?, htag]
      rfl
  | orphan =>
      refine ⟨n, hn, ?_⟩
      rw [start, element?_orphan hn]
      rfl
  | loose i =>
      obtain ⟨-, bracket, name, hbracket, hname, -⟩ := hrole
      refine ⟨bracket, (Node.at?_concat hn i).trans hbracket, ?_⟩
      rw [start, element?_loose hn, Node.looseElementAt?, hbracket, hname]
      rfl

/-- No node of a site starts before it. -/
theorem In.start_le (source : Text) (hroot : root.Nested) (h : s.In root) {a : Address}
    (ha : a ∈ s.nodes) : ∃ n, root.at? a = some n ∧ s.start source root ≤ n.start := by
  obtain ⟨first, hfirst, hstart⟩ := h.start_eq source
  obtain ⟨place, role⟩ := s
  cases role with
  | element | orphan =>
      obtain rfl := List.mem_singleton.mp ha
      exact ⟨first, hfirst, Nat.le_of_eq hstart⟩
  | loose i =>
      rcases List.mem_cons.mp ha with rfl | ha
      · exact ⟨first, hfirst, Nat.le_of_eq hstart⟩
      · obtain rfl := List.mem_singleton.mp ha
        obtain ⟨n, hn, -, bracket, name, hbracket, hname, -⟩ := h
        refine ⟨name, (Node.at?_concat hn (i + 1)).trans hname, ?_⟩
        have hbracket' : root.at? (place ++ [i]) = some bracket :=
          (Node.at?_concat hn i).trans hbracket
        obtain rfl := Option.some.inj (hbracket'.symm.trans hfirst)
        rw [hstart]
        exact (hroot.at? hn).2.sibling (Nat.lt_succ_self i) hbracket hname

theorem Above.start_le (source : Text) (hroot : root.Nested) (hs : s.In root) (hs' : s'.In root)
    (h : s.Above s') : s.start source root ≤ s'.start source root := by
  obtain ⟨a, ha, b, hb, hab, hne⟩ := h
  obtain ⟨n, hn, hle⟩ := hs.start_le source hroot ha
  obtain ⟨m, hm, hstart⟩ := hs'.start_eq source
  have hfirst : a <+: s'.first := (prefix_place hb hab hne).trans s'.place_prefix_first
  rw [hstart]
  exact Nat.le_trans hle (hroot.start_le hfirst hn hm)

end Site

theorem Node.pair_sublist_siteOrder (source : Text) (hroot : root.Nested) (hs : s.In root)
    (hs' : s'.In root) (h : s.Above s') : [s, s'].Sublist (root.siteOrder source) := by
  refine List.pair_sublist_mergeSort (starts_trans fun s : Site => s.start source root)
    (starts_total _) ?_ (pair_sublist_sites hs hs' h)
  exact decide_eq_true (h.start_le source hroot hs hs')

/-! ## Opening tags -/

theorem findIdx?_of_countP_le_one {α : Type} {p : α → Bool} {l : List α} (hone : l.countP p ≤ 1)
    {i : Nat} {a : α} (hi : l[i]? = some a) (ha : p a = true) : l.findIdx? p = some i := by
  induction l generalizing i with
  | nil => cases hi
  | cons x rest ih =>
      rw [List.findIdx?_cons]
      cases i with
      | zero =>
          obtain rfl := Option.some.inj hi
          rw [if_pos ha]
      | succ i =>
          have hrest : 0 < rest.countP p :=
            List.countP_pos_iff.mpr ⟨a, List.mem_of_getElem? hi, ha⟩
          have hx : ¬ p x = true := by
            intro hx
            rw [List.countP_cons_of_pos hx] at hone
            omega
          rw [List.countP_cons_of_neg hx] at hone
          rw [if_neg hx, ih hone hi]
          rfl

/-- Whether no element node has two opening tags. -/
def Node.OneTagEach (root : Node) : Prop :=
  ∀ a n, root.at? a = some n → n.kind.isElement = true →
    n.children.countP (·.kind.isOpenTag) ≤ 1

theorem Node.oneTagEach_iff : root.OneTagEach ↔ ∀ v ∈ root.visits none,
    v.node.kind.isElement = true → v.node.children.countP (·.kind.isOpenTag) ≤ 1 := by
  constructor
  · intro h v hv
    exact h v.place v.node (mem_visits.mp hv).1
  · intro h a n hn
    exact h ⟨a, root.parentAt none a, n⟩ (mem_visits.mpr ⟨hn, rfl⟩)

instance (root : Node) : Decidable root.OneTagEach := decidable_of_iff' _ Node.oneTagEach_iff

namespace Site

theorem openTag?_of_element {p a : Address} (h : openTag? root ⟨p, .element⟩ = some a) :
    ∃ n i, root.at? p = some n ∧ n.children.findIdx? (·.kind.isOpenTag) = some i ∧
      a = p ++ [i] := by
  obtain ⟨n, hn, h⟩ := Option.bind_eq_some_iff.mp h
  obtain ⟨i, hi, h⟩ := Option.bind_eq_some_iff.mp h
  exact ⟨n, i, hn, hi, (Option.some.inj h).symm⟩

/-- The element of a site has the name and the attributes of the opening tag from which it is
read. -/
theorem In.shows_openTag (source : Text) (hs : s.In root) {a : Address}
    (h : s.openTag? root = some a) :
    ∃ tag e, root.at? a = some tag ∧ tag.kind.isOpenTag = true ∧
      s.element? source root = some e ∧ e.tagName = tag.tagNameIn source ∧
      e.attributes = tag.attributesIn source := by
  obtain ⟨place, role⟩ := s
  cases role with
  | element =>
      obtain ⟨n, i, hn, hi, rfl⟩ := openTag?_of_element h
      obtain ⟨hlt, hopen, hbefore⟩ := List.findIdx?_eq_some_iff_getElem.mp hi
      have hfind : n.children.find? (·.kind.isOpenTag) = some n.children[i] :=
        List.find?_eq_some_iff_getElem.mpr ⟨hopen, i, hlt, rfl, by simpa using hbefore⟩
      have helement : element? source root ⟨place, .element⟩ = some
          ⟨n.children[i].tagNameIn source, n.children[i].attributesIn source, n.extent,
            n.contentExtent n.children[i]⟩ := by
        rw [element?_element hn, Node.element?, hfind]
        rfl
      have htag : root.at? (place ++ [i]) = some n.children[i] :=
        (Node.at?_concat hn i).trans (List.getElem?_eq_getElem hlt)
      exact ⟨n.children[i], _, htag, hopen, helement, rfl, rfl⟩
  | orphan =>
      obtain rfl := Option.some.inj h
      obtain ⟨n, hn, hopen, -⟩ := hs
      exact ⟨n, n.orphan source, hn, hopen, element?_orphan hn, rfl, rfl⟩
  | loose i => cases h

theorem openTag?_element {p : Address} {i : Nat} {n tag : Node} (hn : root.at? p = some n)
    (hone : n.children.countP (·.kind.isOpenTag) ≤ 1) (htag : n.children[i]? = some tag)
    (hopen : tag.kind.isOpenTag = true) :
    openTag? root ⟨p, .element⟩ = some (p ++ [i]) := by
  have hi : n.children.findIdx? (·.kind.isOpenTag) = some i :=
    findIdx?_of_countP_le_one hone htag hopen
  rw [openTag?, hn, Option.bind_eq_bind, Option.bind_some, hi]
  rfl

/-- Where no element node has two opening tags, one site each is read from them. -/
theorem existsUnique_openTag (hone : root.OneTagEach) {a : Address} {tag : Node}
    (htag : root.at? a = some tag) (hopen : tag.kind.isOpenTag = true) :
    ∃! s : Site, s.In root ∧ s.openTag? root = some a := by
  by_cases hunder : ∃ p i n, a = p ++ [i] ∧ root.at? p = some n ∧ n.kind.isElement = true
  · obtain ⟨p, i, n, rfl, hn, helement⟩ := hunder
    have hchild : n.children[i]? = some tag := (Node.at?_concat hn i).symm.trans htag
    have hmem : tag ∈ n.children := List.mem_of_getElem? hchild
    have htag? := openTag?_element hn (hone p n hn helement) hchild hopen
    refine ⟨⟨p, .element⟩, ⟨⟨n, hn, helement, tag, hmem, hopen⟩, htag?⟩, ?_⟩
    rintro ⟨q, role⟩ ⟨⟨m, hm, hrole⟩, hs⟩
    cases role with
    | element =>
        obtain ⟨m', j, -, -, heq⟩ := openTag?_of_element hs
        obtain ⟨rfl, -⟩ := List.append_inj' heq rfl
        rfl
    | orphan =>
        have hkind := hrole.2 p i n (Option.some.inj hs) hn
        rw [helement] at hkind
        cases hkind
    | loose j => cases hs
  · have hfree : ∀ p i n, a = p ++ [i] → root.at? p = some n → n.kind.isElement = false := by
      intro p i n ha hn
      exact Bool.eq_false_iff.mpr fun helement => hunder ⟨p, i, n, ha, hn, helement⟩
    refine ⟨⟨a, .orphan⟩, ⟨⟨tag, htag, hopen, hfree⟩, rfl⟩, ?_⟩
    rintro ⟨q, role⟩ ⟨⟨m, hm, hrole⟩, hs⟩
    cases role with
    | element =>
        obtain ⟨m', j, -, -, heq⟩ := openTag?_of_element hs
        exact absurd ⟨q, j, m, heq, hm, hrole.1⟩ hunder
    | orphan =>
        obtain rfl := Option.some.inj hs
        rfl
    | loose j => cases hs

end Site

/-! ## The elements in document order -/

/-- The elements of a fragment are its sites, each once, in the order in which they start and with
what is above before what is below. -/
structure DocumentOrder (f : Fragment) (order : List Site) : Prop where
  elements_eq : f.elements.map some = order.map (·.element? f.source f.root)
  mem_iff : ∀ s, s ∈ order ↔ s.In f.root
  nodup : order.Nodup
  starts : f.elements.Pairwise fun e e' => e.outer.start ≤ e'.outer.start
  above_first : ∀ s ∈ order, ∀ s' ∈ order, s.Above s' → [s, s'].Sublist order
  shows_openTag : ∀ s ∈ order, ∀ a, s.openTag? f.root = some a →
    ∃ tag e, f.root.at? a = some tag ∧ tag.kind.isOpenTag = true ∧
      s.element? f.source f.root = some e ∧ e.tagName = tag.tagNameIn f.source ∧
      e.attributes = tag.attributesIn f.source

/-- The elements are in document order. Where no element node has two opening tags, every node that
is an opening tag is shown by one of them and by no other. -/
theorem Fragment.elements_documentOrder (f : Fragment) (h : f.root.Nested) :
    ∃ order, DocumentOrder f order ∧
      (f.root.OneTagEach → ∀ a tag, f.root.at? a = some tag → tag.kind.isOpenTag = true →
        ∃! s, s ∈ order ∧ s.openTag? f.root = some a) := by
  refine ⟨f.root.siteOrder f.source, ⟨?_, fun s => Node.mem_siteOrder, ?_, ?_, ?_, ?_⟩, ?_⟩
  · exact (f.root.map_element?_siteOrder f.source).symm
  · exact f.root.nodup_siteOrder f.source
  · exact f.root.pairwise_elements f.source
  · intro s hs s' hs'
    exact Node.pair_sublist_siteOrder f.source h (Node.mem_siteOrder.mp hs)
      (Node.mem_siteOrder.mp hs')
  · intro s hs a ha
    exact (Node.mem_siteOrder.mp hs).shows_openTag f.source ha
  · intro hone a tag htag hopen
    obtain ⟨s, ⟨hs, ha⟩, hunique⟩ := Site.existsUnique_openTag hone htag hopen
    refine ⟨s, ⟨Node.mem_siteOrder.mpr hs, ha⟩, ?_⟩
    rintro s' ⟨hs', ha'⟩
    exact hunique s' ⟨Node.mem_siteOrder.mp hs', ha'⟩

/-- What recovery makes of a text in which `p` is not closed and `em` is cut off: an opening tag
under no element node, an element, and a tag in pieces. -/
def recovered : Fragment where
  source := "<p><i>x</i><em".toList
  root := .mk .document ⟨0, 14⟩ [.mk .error ⟨0, 14⟩
    [.mk .startTag ⟨0, 3⟩
      [.mk .tagOpen ⟨0, 1⟩ [], .mk .tagName ⟨1, 2⟩ [], .mk .close ⟨2, 3⟩ []],
    .mk .element ⟨3, 11⟩
      [.mk .startTag ⟨3, 6⟩
        [.mk .tagOpen ⟨3, 4⟩ [], .mk .tagName ⟨4, 5⟩ [], .mk .close ⟨5, 6⟩ []],
      .mk .text ⟨6, 7⟩ [],
      .mk .endTag ⟨7, 11⟩
        [.mk .mark ⟨7, 9⟩ [], .mk .tagName ⟨9, 10⟩ [], .mk .close ⟨10, 11⟩ []]],
    .mk .tagOpen ⟨11, 12⟩ [], .mk .tagName ⟨12, 14⟩ []]]
  hasErrors := true

theorem Fragment.elements_documentOrder_recovered :
    recovered.root.Nested ∧ recovered.root.OneTagEach ∧
      recovered.elements.map (·.tagName) = ["p".toList, "i".toList, "em".toList] ∧
      ∃ order, DocumentOrder recovered order ∧
        ∀ a tag, recovered.root.at? a = some tag → tag.kind.isOpenTag = true →
          ∃! s, s ∈ order ∧ s.openTag? recovered.root = some a := by
  have hnested : recovered.root.Nested := by decide
  have hone : recovered.root.OneTagEach := by decide
  -- The walk finds `em` first, at its error node, and the sort puts it last.
  have hfrom : Node.elementsFrom recovered.source (.ofRoot recovered.root)
      = [⟨"em".toList, [], ⟨11, 14⟩, ⟨14, 14⟩⟩, ⟨"p".toList, [], ⟨0, 3⟩, ⟨3, 3⟩⟩,
        ⟨"i".toList, [], ⟨3, 11⟩, ⟨6, 7⟩⟩] := by decide +kernel
  have hnames : recovered.elements.map (·.tagName) = ["p".toList, "i".toList, "em".toList] := by
    rw [elements, Node.elements, hfrom]
    simp [List.mergeSort, List.MergeSort.Internal.splitInTwo]
  obtain ⟨order, horder, htags⟩ := Fragment.elements_documentOrder recovered hnested
  exact ⟨hnested, hone, hnames, order, horder, htags hone⟩

end Explainer.Markup
