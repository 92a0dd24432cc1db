import Explainer.Proofs.DecimalText
import Explainer.Proofs.FieldDescent
import Explainer.Proofs.TreeSimulation

/-!
# A loop is its rounds, written out

A loop over a list says the same as its body written out once for each item,
with the item's own path in place of the name that the loop gives it, and with
the index as plain text. This file proves that the two render alike: to one
text, or to errors of one kind.

It is a substitution lemma for a language with two binders in one. Going into
the body of a loop inside, the name of the outer item may be covered, and then
the body stays as it is; the name of the index is covered in any case; and the
path of the list must not be covered, or the substituted path would change its
meaning. `Round.Covers` relates the scope in a round with the scope outside
under a substitution. It speaks of paths only, not of lists of bindings, so
that a loop inside keeps it by comparing names.
-/

namespace Explainer.Template

/-! ## Outcomes of one kind -/

/-- The errors differ in the path that they report, if at all. -/
inductive RenderError.SameKind : RenderError → RenderError → Prop
  | template (e : TemplateError) : SameKind (.template e) (.template e)
  | missingField (p q : Text) : SameKind (.missingField p) (.missingField q)
  | notIterable (p q : Text) : SameKind (.notIterable p) (.notIterable q)

namespace Rendering

/-- Both yield the same text, or both fail with errors of one kind. -/
inductive SameOutcome (a b : Rendering) : Prop
  | ok {s : Text} (ha : a.result = .ok s) (hb : b.result = .ok s)
  | error {e f : RenderError} (ha : a.result = .error e) (hb : b.result = .error f)
      (h : e.SameKind f)

theorem SameOutcome.refl (r : Rendering) : SameOutcome r r := by
  cases hr : r.result with
  | ok s => exact .ok hr hr
  | error e =>
      refine .error hr hr ?_
      cases e with
      | template e => exact .template e
      | missingField p => exact .missingField p p
      | notIterable p => exact .notIterable p p

theorem congruence_sameOutcome : Congruence SameOutcome where
  empty := .ok rfl rfl
  append := by
    intro a b c d hab hcd
    cases hab with
    | error ha hb h =>
        exact .error (by rw [append_of_error ha, ha]) (by rw [append_of_error hb, hb]) h
    | ok ha hb =>
        rw [append_of_ok ha, append_of_ok hb]
        cases hcd with
        | ok hc hd => exact .ok (by rw [hc]; rfl) (by rw [hd]; rfl)
        | error hc hd h => exact .error (by rw [hc]; rfl) (by rw [hd]; rfl) h

theorem congruence_eq : Congruence Eq where
  empty := rfl
  append := by
    rintro a b c d rfl rfl
    rfl

end Rendering

open Rendering (SameOutcome congruence_sameOutcome congruence_eq)

theorem renderField_sameOutcome (strict : Bool) (p q : Text) (found : Option Json) :
    SameOutcome (renderField strict p found) (renderField strict q found) := by
  cases found with
  | some v => exact .ok rfl rfl
  | none =>
      cases strict with
      | false => exact .ok rfl rfl
      | true => exact .error rfl rfl (.missingField p q)

theorem loopItems_sameKind (strict : Bool) (p q : Text) (found : Option Json) :
    (∃ e f, loopItems strict p found = .error e ∧ loopItems strict q found = .error f ∧
      e.SameKind f) ∨
    ∃ items, loopItems strict p found = .ok items ∧ loopItems strict q found = .ok items := by
  cases found with
  | none =>
      cases strict with
      | false => exact .inr ⟨[], rfl, rfl⟩
      | true => exact .inl ⟨_, _, rfl, rfl, .missingField p q⟩
  | some v =>
      cases v with
      | arr items => exact .inr ⟨items, rfl, rfl⟩
      | null => exact .inr ⟨[], rfl, rfl⟩
      | bool | num | str | obj => exact .inl ⟨_, _, rfl, rfl, .notIterable p q⟩

/-! ## Writing a round out -/

/-- A round of a loop: the name and the path of the loop, and the index of the
item. -/
structure Round where
  binder : Text
  source : Text
  index : Nat

namespace Round

/-- A path in a round, with the item's own path in place of its name. -/
def path (r : Round) (p : Text) : Text :=
  if Scope.head p = r.binder then
    r.source ++ '.' :: (natText r.index ++ p.dropWhile (· ≠ '.'))
  else p

mutual

/-- A node of a round, written out. `inner` says whether it stands in a loop
inside, where the index is that of the loop inside. -/
def node (r : Round) (inner : Bool) : Node → Node
  | .text t => .text t
  | .value p =>
      if !inner && p = Scope.loopIndex then .text (natText r.index) else .value (r.path p)
  | .branch negate p thenPart elsePart =>
      .branch negate (r.path p) (r.nodes inner thenPart) (r.nodes inner elsePart)
  | .loop binder p body =>
      -- a loop with the same name covers the item
      .loop binder (r.path p) (if binder = r.binder then body else r.nodes true body)

@[inherit_doc node]
def nodes (r : Round) (inner : Bool) : List Node → List Node
  | [] => []
  | n :: rest => r.node inner n :: r.nodes inner rest

end

end Round

/-- The rounds of a loop over a list of so many items, written out. -/
def unrolled (binder source : Text) (count : Nat) (body : List Node) : List Node :=
  (List.range count).flatMap fun index => Round.nodes ⟨binder, source, index⟩ false body

namespace Node

mutual

/-- The node can be written out as part of a round over the source: no loop
inside covers the first name of the source, and outside of loops inside the
name of the index is used to show the index, and for nothing else. -/
def Unrollable (source : Text) (inner : Bool) : Node → Prop
  | .text _ => True
  | .value p => Scope.head p = Scope.loopName → inner = true ∨ p = Scope.loopIndex
  | .branch _ p thenPart elsePart =>
      (Scope.head p = Scope.loopName → inner = true) ∧
        UnrollableAll source inner thenPart ∧ UnrollableAll source inner elsePart
  | .loop binder p body =>
      (Scope.head p = Scope.loopName → inner = true) ∧ binder ≠ Scope.head source ∧
        UnrollableAll source true body

@[inherit_doc Unrollable]
def UnrollableAll (source : Text) (inner : Bool) : List Node → Prop
  | [] => True
  | n :: rest => n.Unrollable source inner ∧ UnrollableAll source inner rest

end

end Node

/-! ## Scopes that give paths the same meaning -/

/-- The scopes agree on every path that can be written. -/
def Scope.Agree (σ τ : Scope) : Prop := ∀ p, DottedPath p → σ.resolve? p = τ.resolve? p

/-- Two scopes that agree but on covered names agree inside the loop that
covers them. -/
theorem Scope.resolve?_enter_congr {σ τ : Scope} {binder p q : Text}
    (hbinder : head p = binder → q = p) (hloop : head p = loopName → q = p)
    (hother : head p ≠ binder → head p ≠ loopName →
      head q ≠ binder ∧ head q ≠ loopName ∧ σ.resolve? p = τ.resolve? q)
    (index : Nat) (item : Json) :
    (σ.enter binder index item).resolve? p = (τ.enter binder index item).resolve? q := by
  by_cases hb : head p = binder
  · rw [hbinder hb, resolve?, resolve?, hb, find?_enter_self, find?_enter_self]
  · by_cases hl : head p = loopName
    · have hne : binder ≠ loopName := fun h => hb (hl.trans h.symm)
      rw [hloop hl, resolve?, resolve?, hl, find?_enter_loopName hne, find?_enter_loopName hne]
    · obtain ⟨hqb, hql, heq⟩ := hother hb hl
      rw [resolve?_enter_of_ne hb hl, resolve?_enter_of_ne hqb hql, heq]

theorem Scope.Agree.enter {σ τ : Scope} (h : σ.Agree τ) (binder : Text) (index : Nat)
    (item : Json) : (σ.enter binder index item).Agree (τ.enter binder index item) :=
  fun p hp => resolve?_enter_congr (fun _ => rfl) (fun _ => rfl)
    (fun hb hl => ⟨hb, hl, h p hp⟩) index item

/-- Rendering asks a scope about paths that can be written, and about nothing
else. -/
theorem simulation_agree (strict : Bool) :
    Simulation Eq Scope.Agree DottedPath strict strict where
  toCongruence := congruence_eq
  text _ := rfl
  field h hpath := by rw [h _ hpath]
  condition h hpath := by rw [h _ hpath]
  loop := by
    intro σ τ path h hpath f g binder hfg
    rw [renderLoop, renderLoop, h path hpath]
    cases loopItems strict path (τ.resolve? path) with
    | error e => rfl
    | ok items => exact congruence_eq.rounds_self (fun v i => hfg (h.enter binder i v)) items 0

theorem dottedPath_natText (n : Nat) : DottedPath (natText n) :=
  .of_isIdentifier (isIdentifier_natText n)

theorem Scope.resolve?_item {σ : Scope} {source : Text} {items : List Json} {item : Json}
    {index : Nat} (hsource : DottedPath source) (hitems : σ.resolve? source = some (.arr items))
    (hitem : items[index]? = some item) (hindex : index ≤ maxWord) :
    σ.resolve? (source ++ '.' :: natText index) = some item := by
  have hdigits := dottedPath_natText index
  have hsplit : (natText index).splitOn '.' = [natText index] := by
    refine List.splitOn_eq_singleton fun hdot => ?_
    exact absurd (isDigit_of_mem_natText hdot) (by decide)
  rw [resolve?_append σ hsource hdigits, hitems, Option.bind_some,
    Json.lookup?_of_isTrimmed hdigits.isTrimmed, hsplit, Json.descend?, Json.child?,
    readIndex?_natText hindex, Option.bind_some, hitem]
  rfl

namespace Round

variable {r : Round} {inner strict : Bool} {σ τ : Scope}

theorem path_of_ne {p : Text} (h : Scope.head p ≠ r.binder) : r.path p = p := if_neg h

theorem head_path {p : Text} (h : Scope.head p = r.binder) :
    Scope.head (r.path p) = Scope.head r.source := by
  rw [path, if_pos h, Scope.head_append_eq]

/-- The name of the index is neither that of the items nor that of the list. -/
structure Apart (r : Round) : Prop where
  binder_ne : r.binder ≠ Scope.loopName
  source_ne : Scope.head r.source ≠ Scope.loopName

/-- What a path means in a round, its written-out form means outside. The name
of the index is left out, until a loop inside covers it. -/
structure Covers (r : Round) (inner : Bool) (σ τ : Scope) : Prop where
  resolve?_path : ∀ p, DottedPath p → (Scope.head p = Scope.loopName → inner = true) →
    σ.resolve? p = τ.resolve? (r.path p)
  index : inner = false → σ.resolve? Scope.loopIndex = some (.num (.int r.index))

theorem covers_enter {items : List Json} {item : Json} (hr : r.Apart)
    (hsource : DottedPath r.source) (hitems : σ.resolve? r.source = some (.arr items))
    (hitem : items[r.index]? = some item) (hindex : r.index ≤ maxWord) :
    r.Covers false (σ.enter r.binder r.index item) σ := by
  refine ⟨fun p hp hloop => ?_, fun _ => ?_⟩
  · by_cases hb : Scope.head p = r.binder
    · have hfound := Scope.resolve?_item hsource hitems hitem hindex
      rw [path, if_pos hb, Scope.resolve?, hb, Scope.find?_enter_self]
      rcases Scope.exists_first p with hdot | ⟨first, rest, hdot, rfl⟩
      · rw [Scope.dropWhile_eq_nil hdot, List.append_nil, hfound, Scope.tail_eq_nil hdot]
        rfl
      · have hrest : DottedPath rest := (dottedPath_append_iff.mp hp).2
        rw [Scope.dropWhile_append hdot, ← List.cons_append, ← List.append_assoc,
          Scope.resolve?_append σ
            (dottedPath_append_iff.mpr ⟨hsource, dottedPath_natText r.index⟩) hrest,
          hfound, Scope.tail_append hdot]
        rfl
    · have hl : Scope.head p ≠ Scope.loopName := fun h => Bool.false_ne_true (hloop h)
      rw [path_of_ne hb, Scope.resolve?_enter_of_ne hb hl]
  · rw [Scope.resolve?, show Scope.head Scope.loopIndex = Scope.loopName from rfl,
      Scope.find?_enter_loopName hr.binder_ne]
    rfl

/-- A loop inside keeps the relation, unless it covers the item or the list. -/
theorem Covers.enter (h : r.Covers inner σ τ) (hr : r.Apart) {binder : Text}
    (hb : binder ≠ r.binder) (hs : binder ≠ Scope.head r.source) (index : Nat) (item : Json) :
    r.Covers true (σ.enter binder index item) (τ.enter binder index item) := by
  refine ⟨fun p hp _ => ?_, nofun⟩
  refine Scope.resolve?_enter_congr (fun heq => path_of_ne (heq ▸ hb))
    (fun heq => path_of_ne (heq ▸ hr.binder_ne.symm)) (fun hpb hpl => ?_) index item
  have hresolve := h.resolve?_path p hp (fun heq => absurd heq hpl)
  by_cases hp' : Scope.head p = r.binder
  · rw [head_path hp']
    exact ⟨hs.symm, hr.source_ne, hresolve⟩
  · rw [path_of_ne hp'] at hresolve ⊢
    exact ⟨hpb, hpl, hresolve⟩

/-- In a loop inside that covers the item, nothing of the round is left. -/
theorem Covers.agree_enter (h : r.Covers inner σ τ) (index : Nat) (item : Json) :
    (σ.enter r.binder index item).Agree (τ.enter r.binder index item) := by
  intro p hp
  refine Scope.resolve?_enter_congr (fun _ => rfl) (fun _ => rfl) (fun hb hl => ?_) index item
  have hresolve := h.resolve?_path p hp (fun heq => absurd heq hl)
  rw [path_of_ne hb] at hresolve
  exact ⟨hb, hl, hresolve⟩

/-! ## The substitution lemma -/

mutual

theorem render_node {inner : Bool} {σ τ : Scope} (h : r.Covers inner σ τ) (hr : r.Apart)
    {n : Node} (hpaths : ∀ u ∈ n.uses, DottedPath u.path) (hn : n.Unrollable r.source inner) :
    SameOutcome (n.render strict σ) ((r.node inner n).render strict τ) := by
  match n with
  | .text t => exact .ok rfl rfl
  | .value p =>
      rw [node]
      split
      · next hindex =>
          simp only [Bool.and_eq_true, Bool.not_eq_true', decide_eq_true_eq] at hindex
          obtain ⟨hinner, rfl⟩ := hindex
          -- digits are shown as they are
          rw [Node.render, Node.render, h.index hinner]
          refine .ok (congrArg Except.ok ?_) rfl
          exact Markup.escape_natText r.index
      · next hindex =>
          have hp : DottedPath p := hpaths _ List.mem_cons_self
          have hresolve := h.resolve?_path p hp fun hl => by
            cases inner with
            | true => rfl
            | false => exact absurd ((hn hl).resolve_left nofun) (by simpa using hindex)
          rw [Node.render, Node.render, hresolve]
          exact renderField_sameOutcome strict p _ _
  | .branch negate p thenPart elsePart =>
      simp only [Node.uses, List.forall_mem_cons, List.forall_mem_append] at hpaths
      obtain ⟨hp, hpthen, hpelse⟩ := hpaths
      obtain ⟨hl, hthen, helse⟩ := hn
      rw [node, Node.render, Node.render, h.resolve?_path p hp hl]
      split
      · exact render_nodes h hr hpthen hthen
      · exact render_nodes h hr hpelse helse
  | .loop binder p body =>
      rw [Node.uses, List.forall_mem_cons] at hpaths
      obtain ⟨hp, hpbody⟩ := hpaths
      obtain ⟨hl, hsource, hbody⟩ := hn
      rw [node, Node.render_loop, Node.render_loop, renderLoop, renderLoop,
        h.resolve?_path p hp hl]
      rcases loopItems_sameKind strict p (r.path p) (τ.resolve? (r.path p)) with
        ⟨e, f, he, hf, hkind⟩ | ⟨items, he, hf⟩
      · rw [he, hf]
        exact .error rfl rfl hkind
      · rw [he, hf]
        refine congruence_sameOutcome.rounds_self (fun v i => ?_) items 0
        split
        · next hb =>
            -- the body stays as it is, and no path in it speaks of the round
            subst hb
            rw [(simulation_agree strict).renderAll (h.agree_enter i v) hpbody]
            exact .refl _
        · next hb =>
            exact render_nodes (h.enter hr hb hsource i v) hr hpbody hbody

theorem render_nodes {inner : Bool} {σ τ : Scope} (h : r.Covers inner σ τ) (hr : r.Apart)
    {ns : List Node} (hpaths : ∀ u ∈ Node.usesAll ns, DottedPath u.path)
    (hns : Node.UnrollableAll r.source inner ns) :
    SameOutcome (Node.renderAll strict σ ns) (Node.renderAll strict τ (r.nodes inner ns)) := by
  match ns with
  | [] => exact congruence_sameOutcome.empty
  | n :: rest =>
      rw [Node.usesAll, List.forall_mem_append] at hpaths
      rw [nodes, Node.renderAll, Node.renderAll]
      exact congruence_sameOutcome.append (render_node h hr hpaths.1 hns.1)
        (render_nodes h hr hpaths.2 hns.2)

end

end Round

/-! ## The whole loop -/

namespace Node

section

variable {strict : Bool} {σ : Scope} {binder source : Text} {items : List Json}
  {body : List Node}

theorem rounds_sameOutcome (strict : Bool) (hbinder : binder ≠ Scope.loopName)
    (hsource : DottedPath source) (hhead : Scope.head source ≠ Scope.loopName)
    (hitems : σ.resolve? source = some (.arr items)) (hcount : items.length ≤ maxWord + 1)
    (hpaths : ∀ u ∈ usesAll body, DottedPath u.path) (hbody : UnrollableAll source false body)
    {rest : List Json} {k : Nat} (hrest : items.drop k = rest) :
    SameOutcome
      (.rounds (fun item index => renderAll strict (σ.enter binder index item) body) rest k)
      (renderAll strict σ ((List.range' k rest.length).flatMap fun index =>
        Round.nodes ⟨binder, source, index⟩ false body)) := by
  -- over the rounds still to come, since each one stands for an index of the whole list
  induction rest generalizing k with
  | nil => exact congruence_sameOutcome.empty
  | cons item rest ih =>
      have hitem : items[k]? = some item := by
        rw [← List.head?_drop, hrest, List.head?_cons]
      have hk : k < items.length := (List.getElem?_eq_some_iff.mp hitem).1
      have hnext : items.drop (k + 1) = rest := by
        rw [← List.tail_drop, hrest, List.tail_cons]
      let r : Round := ⟨binder, source, k⟩
      have hr : r.Apart := ⟨hbinder, hhead⟩
      have hcovers : r.Covers false (σ.enter binder k item) σ :=
        Round.covers_enter hr hsource hitems hitem (Nat.le_of_lt_succ (hk.trans_le hcount))
      rw [Rendering.rounds_cons, List.length_cons, List.range'_succ, List.flatMap_cons,
        renderAll_append]
      exact congruence_sameOutcome.append (Round.render_nodes hcovers hr hpaths hbody) (ih hnext)

/-- A loop over a list renders like its rounds written out, in every scope: to
the same text, or to errors of one kind. Its paths are dotted identifiers if it
was read (`dottedPath_of_parse`), and its indices are words if it is stored. -/
theorem render_loop_unrolled (hbinder : binder ≠ Scope.loopName) (hsource : DottedPath source)
    (hhead : Scope.head source ≠ Scope.loopName)
    (hitems : σ.resolve? source = some (.arr items)) (hcount : items.length ≤ maxWord + 1)
    (hpaths : ∀ u ∈ usesAll body, DottedPath u.path) (hbody : UnrollableAll source false body) :
    (∃ out, (render strict σ (.loop binder source body)).result = .ok out ∧
      (renderAll strict σ (unrolled binder source items.length body)).result = .ok out) ∨
    (∃ e f, (render strict σ (.loop binder source body)).result = .error e ∧
      (renderAll strict σ (unrolled binder source items.length body)).result = .error f ∧
      e.SameKind f) := by
  have hrounds := rounds_sameOutcome strict hbinder hsource hhead hitems hcount
    hpaths hbody List.drop_zero
  rw [render_loop, renderLoop, hitems, unrolled, List.range_eq_range']
  cases hrounds with
  | ok ha hb => exact .inl ⟨_, ha, hb⟩
  | error ha hb h => exact .inr ⟨_, _, ha, hb, h⟩

/-- A body with a loop inside that takes the name of the item, and one that
does not. -/
def shadowingBody : List Node :=
  [.value "x.id".toList, .value "loop.index".toList,
    .loop "x".toList "x.tags".toList [.value "x".toList, .value "loop.index".toList],
    .loop "y".toList "x.tags".toList
      [.branch false "y".toList [.value "x.id".toList] [.value "loop.index".toList]]]

theorem render_loop_unrolled_shadowing :
    let item (id : Int) : Json :=
      .obj [("id".toList, .num (.int id)), ("tags".toList, .arr [.str ['a'], .null])]
    let items : List Json := [item 7, item 8]
    let σ : Scope := ⟨.null, [("o".toList, .obj [("list".toList, .arr items)])]⟩
    let loop : Node := .loop "x".toList "o.list".toList shadowingBody
    let rounds := unrolled "x".toList "o.list".toList items.length shadowingBody
    rounds.take 4 =
      [.value "o.list.0.id".toList, .text "0".toList,
        .loop "x".toList "o.list.0.tags".toList [.value "x".toList, .value "loop.index".toList],
        .loop "y".toList "o.list.0.tags".toList
          [.branch false "y".toList [.value "o.list.0.id".toList]
            [.value "loop.index".toList]]] ∧
    ((∃ out, (render true σ loop).result = .ok out ∧ (renderAll true σ rounds).result = .ok out) ∨
      (∃ e f, (render true σ loop).result = .error e ∧
        (renderAll true σ rounds).result = .error f ∧ e.SameKind f)) := by
  intro item items σ loop rounds
  have hitems : σ.resolve? "o.list".toList = some (.arr items) := rfl
  have hbody : UnrollableAll "o.list".toList false shadowingBody := by
    simp only [shadowingBody, UnrollableAll, Unrollable]
    decide
  exact ⟨rfl, render_loop_unrolled (by decide) (by decide) (by decide) hitems (by decide)
    (by decide) hbody⟩

end

end Node

end Explainer.Template
