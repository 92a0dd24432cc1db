import Explainer.Proofs.RenderRounds
import Explainer.Proofs.TreeFields

/-!
# Where in a tree an error is raised

A field is used at a place of a tree: inside certain parts of branches and
bodies of loops. What encloses a place says something about every scope in
which rendering can come there, since a part of a branch is entered only when
its field holds, or does not, and a body of a loop only with an item bound.
`Scope.Reaches` is that relation between what encloses a place and a scope.

The main statement, `Node.exists_place_of_error`, is that an error of a
rendering can be traced to a place: some use of a field in the tree raises it,
in a scope in which rendering comes to that place. What an error says about a
template, or a template about its errors, is then a question about places.

The first answer stands at the end. A template is at fault or a record is, and
never the one in place of the other: the tree is read before the record is
looked at, so a template that cannot be read fails alike for all records, and
one that can be read fails only where a field of it does.
-/

namespace Explainer

/-- A loop refuses the value: it is neither a list nor null. -/
def Json.RefusesLoop : Json → Prop
  | .bool _ | .num _ | .str _ | .obj _ => True
  | .null | .arr _ => False

namespace Template

/-! ## Places -/

/-- What can stand around a place in a tree. -/
inductive Enclosing where
  | thenPart (negate : Bool) (path : Text)
  | elsePart (negate : Bool) (path : Text)
  | body (binder path : Text)
deriving DecidableEq, Repr

/-- A use of a field in a tree, with all that encloses it, innermost first. -/
structure Place where
  around : List Enclosing
  use : FieldUse
deriving DecidableEq, Repr

namespace Node

mutual

/-- The places of a node that stands inside what is given. -/
def places (around : List Enclosing) : Node → List Place
  | .text _ => []
  | .value path => [⟨around, .value path⟩]
  | .branch negate path thenPart elsePart =>
      ⟨around, .condition path⟩ ::
        (placesAll (.thenPart negate path :: around) thenPart
          ++ placesAll (.elsePart negate path :: around) elsePart)
  | .loop binder path body =>
      ⟨around, .source binder path⟩ :: placesAll (.body binder path :: around) body

@[inherit_doc places]
def placesAll (around : List Enclosing) : List Node → List Place
  | [] => []
  | n :: rest => n.places around ++ placesAll around rest

end

mutual

theorem map_use_places (around : List Enclosing) (n : Node) :
    (n.places around).map (·.use) = n.uses := by
  match n with
  | .text _ | .value _ => rfl
  | .branch negate path thenPart elsePart =>
      rw [places, uses, List.map_cons, List.map_append, map_use_placesAll,
        map_use_placesAll]
  | .loop binder path body => rw [places, uses, List.map_cons, map_use_placesAll]

theorem map_use_placesAll (around : List Enclosing) (ns : List Node) :
    (placesAll around ns).map (·.use) = usesAll ns := by
  match ns with
  | [] => rfl
  | n :: rest =>
      rw [placesAll, usesAll, List.map_append, map_use_places, map_use_placesAll]

end

theorem use_mem_usesAll {around : List Enclosing} {ns : List Node} {w : Place}
    (h : w ∈ placesAll around ns) : w.use ∈ usesAll ns := by
  rw [← map_use_placesAll around ns]
  exact List.mem_map_of_mem h

mutual

/-- A place inside a node lies in the bodies of its loops and of no others. -/
theorem source_of_mem_places {around : List Enclosing} {n : Node} {w : Place}
    (h : w ∈ n.places around) {binder path : Text} (hb : .body binder path ∈ w.around) :
    .body binder path ∈ around ∨ .source binder path ∈ n.uses := by
  match n with
  | .text _ => cases h
  | .value _ =>
      obtain rfl := List.mem_singleton.mp h
      exact .inl hb
  | .branch negate q thenPart elsePart =>
      rw [places, List.mem_cons, List.mem_append] at h
      rw [uses, List.mem_cons, List.mem_append]
      rcases h with rfl | h | h
      · exact .inl hb
      · rcases source_of_mem_placesAll h hb with hin | huse
        · exact .inl ((List.mem_cons.mp hin).resolve_left nofun)
        · exact .inr (.inr (.inl huse))
      · rcases source_of_mem_placesAll h hb with hin | huse
        · exact .inl ((List.mem_cons.mp hin).resolve_left nofun)
        · exact .inr (.inr (.inr huse))
  | .loop b q body =>
      rw [places, List.mem_cons] at h
      rw [uses, List.mem_cons]
      rcases h with rfl | h
      · exact .inl hb
      · rcases source_of_mem_placesAll h hb with hin | huse
        · rcases List.mem_cons.mp hin with heq | hin
          · cases heq
            exact .inr (.inl rfl)
          · exact .inl hin
        · exact .inr (.inr huse)

theorem source_of_mem_placesAll {around : List Enclosing} {ns : List Node} {w : Place}
    (h : w ∈ placesAll around ns) {binder path : Text}
    (hb : .body binder path ∈ w.around) :
    .body binder path ∈ around ∨ .source binder path ∈ usesAll ns := by
  match ns with
  | [] => cases h
  | n :: rest =>
      rw [usesAll, List.mem_append]
      rcases List.mem_append.mp h with h | h
      · exact (source_of_mem_places h hb).imp_right .inl
      · exact (source_of_mem_placesAll h hb).imp_right .inr

end

end Node

/-! ## The scopes at a place, and the errors of a use -/

/-- Rendering can come, with this scope, to a place inside what is given. -/
inductive Scope.Reaches (strict : Bool) (data : Json) : List Enclosing → Scope → Prop
  | start : Reaches strict data [] ⟨data, []⟩
  | thenPart {around : List Enclosing} {σ : Scope} {negate : Bool} {path : Text}
      (h : Reaches strict data around σ)
      (hholds : (σ.resolve? path).any Json.holds ≠ negate) :
      Reaches strict data (.thenPart negate path :: around) σ
  | elsePart {around : List Enclosing} {σ : Scope} {negate : Bool} {path : Text}
      (h : Reaches strict data around σ)
      (hholds : (σ.resolve? path).any Json.holds = negate) :
      Reaches strict data (.elsePart negate path :: around) σ
  | body {around : List Enclosing} {σ : Scope} {binder path : Text}
      (h : Reaches strict data around σ) {items : List Json}
      (hitems : loopItems strict path (σ.resolve? path) = .ok items)
      {item : Json} {index : Nat} (hround : (item, index) ∈ items.zipIdx) :
      Reaches strict data (.body binder path :: around) (σ.enter binder index item)

/-- The use of a field raises the error in the scope. A condition raises none. -/
inductive FieldUse.Raises (strict : Bool) (σ : Scope) : FieldUse → RenderError → Prop
  | value {path : Text} {e : RenderError}
      (h : (renderField strict path (σ.resolve? path)).result = .error e) :
      Raises strict σ (.value path) e
  | source {binder path : Text} {e : RenderError}
      (h : loopItems strict path (σ.resolve? path) = .error e) :
      Raises strict σ (.source binder path) e

theorem renderField_eq_error_iff {strict : Bool} {path : Text}
    {found : Option Json} {e : RenderError} :
    (renderField strict path found).result = .error e ↔
      strict = true ∧ found = none ∧ e = .missingField path := by
  cases found with
  | some v => simp [renderField, Rendering.text]
  | none => cases strict <;> simp [renderField, Rendering.fail, eq_comm]

theorem loopItems_eq_error_iff {strict : Bool} {path : Text}
    {found : Option Json} {e : RenderError} :
    loopItems strict path found = .error e ↔
      (∃ v, found = some v ∧ v.RefusesLoop ∧ e = .notIterable path) ∨
        (strict = true ∧ found = none ∧ e = .missingField path) := by
  cases found with
  | some v => cases v <;> simp [loopItems, Json.RefusesLoop, eq_comm]
  | none => cases strict <;> simp [loopItems, eq_comm]

/-- A use raises one of two errors: a loop has found what it refuses, or a field
that strict rendering has to show or to loop through is not there. -/
theorem FieldUse.Raises.cases {strict : Bool} {σ : Scope} {u : FieldUse}
    {e : RenderError} (h : u.Raises strict σ e) :
    (∃ binder p v, u = .source binder p ∧ σ.resolve? p = some v ∧
        v.RefusesLoop ∧ e = .notIterable p) ∨
      ∃ p, (u = .value p ∨ ∃ binder, u = .source binder p) ∧ strict = true ∧
        σ.resolve? p = none ∧ e = .missingField p := by
  cases h with
  | @value p _ h =>
      obtain ⟨hstrict, hnone, rfl⟩ := renderField_eq_error_iff.1 h
      exact .inr ⟨p, .inl rfl, hstrict, hnone, rfl⟩
  | @source binder p _ h =>
      rcases loopItems_eq_error_iff.1 h with ⟨v, hv, hrefuses, rfl⟩ | ⟨hstrict, hnone, rfl⟩
      · exact .inl ⟨binder, p, v, rfl, hv, hrefuses, rfl⟩
      · exact .inr ⟨p, .inr ⟨binder, rfl⟩, hstrict, hnone, rfl⟩

theorem FieldUse.Raises.missing {strict : Bool} {σ : Scope} {u : FieldUse} {p : Text}
    (h : u.Raises strict σ (.missingField p)) :
    (u = .value p ∨ ∃ binder, u = .source binder p) ∧ σ.resolve? p = none := by
  rcases h.cases with ⟨_, _, _, _, _, _, he⟩ | ⟨q, huse, _, hnone, he⟩
  · cases he
  · cases he
    exact ⟨huse, hnone⟩

/-! ## Tracing an error -/

namespace Node

variable {strict : Bool} {data : Json} {e : RenderError}

mutual

theorem exists_place_of_render_error {around : List Enclosing} {σ : Scope}
    (hσ : σ.Reaches strict data around) {n : Node}
    (h : (n.render strict σ).result = .error e) :
    ∃ w ∈ n.places around, ∃ τ : Scope,
      τ.Reaches strict data w.around ∧ w.use.Raises strict τ e := by
  match n with
  | .text _ => cases h
  | .value path =>
      rw [render] at h
      exact ⟨_, List.mem_singleton_self _, σ, hσ, .value h⟩
  | .branch negate path thenPart elsePart =>
      rw [render] at h
      split at h
      · next hholds =>
          obtain ⟨w, hw, hτ⟩ := exists_place_of_renderAll_error
            (hσ.thenPart (by simpa using hholds)) h
          exact ⟨w, List.mem_cons_of_mem _ (List.mem_append_left _ hw), hτ⟩
      · next hholds =>
          obtain ⟨w, hw, hτ⟩ := exists_place_of_renderAll_error
            (hσ.elsePart (by simpa using hholds)) h
          exact ⟨w, List.mem_cons_of_mem _ (List.mem_append_right _ hw), hτ⟩
  | .loop binder path body =>
      rw [render_loop, renderLoop] at h
      cases hitems : loopItems strict path (σ.resolve? path) with
      | error f =>
          rw [hitems] at h
          cases h
          exact ⟨_, List.mem_cons_self, σ, hσ, .source hitems⟩
      | ok items =>
          rw [hitems] at h
          -- the error comes from one round, and the scope of that round reaches the body
          obtain ⟨item, index, hround, hfail⟩ := Rendering.error_of_rounds h
          obtain ⟨w, hw, hτ⟩ :=
            exists_place_of_renderAll_error (hσ.body hitems hround) hfail
          exact ⟨w, List.mem_cons_of_mem _ hw, hτ⟩

theorem exists_place_of_renderAll_error {around : List Enclosing} {σ : Scope}
    (hσ : σ.Reaches strict data around) {ns : List Node}
    (h : (renderAll strict σ ns).result = .error e) :
    ∃ w ∈ placesAll around ns, ∃ τ : Scope,
      τ.Reaches strict data w.around ∧ w.use.Raises strict τ e := by
  match ns with
  | [] => cases h
  | n :: rest =>
      rw [renderAll] at h
      rcases Rendering.error_of_append h with h | h
      · obtain ⟨w, hw, hτ⟩ := exists_place_of_render_error hσ h
        exact ⟨w, List.mem_append_left _ hw, hτ⟩
      · obtain ⟨w, hw, hτ⟩ := exists_place_of_renderAll_error hσ h
        exact ⟨w, List.mem_append_right _ hw, hτ⟩

end

/-- An error of a whole tree is raised at one of its places, in a scope in
which rendering comes there. -/
theorem exists_place_of_error {ns : List Node}
    (h : (renderAll strict ⟨data, []⟩ ns).result = .error e) :
    ∃ w ∈ placesAll [] ns, ∃ τ : Scope,
      τ.Reaches strict data w.around ∧ w.use.Raises strict τ e :=
  exists_place_of_renderAll_error .start h

end Node

/-! ## Errors of a template and errors of a record -/

/-- What an error says of the record, for each error that a tree can meet with:
which use of a field has raised it, and what it has found there. -/
def RecordError (strict : Bool) (data : Json) (ns : List Node) : RenderError → Prop
  | .template _ => False
  | .notIterable path =>
      ∃ w ∈ Node.placesAll [] ns, (∃ binder, w.use = .source binder path) ∧
        ∃ σ : Scope, σ.Reaches strict data w.around ∧
          ∃ v, σ.resolve? path = some v ∧ v.RefusesLoop
  | .missingField path =>
      strict = true ∧
        ∃ w ∈ Node.placesAll [] ns,
          (w.use = .value path ∨ ∃ binder, w.use = .source binder path) ∧
            ∃ σ : Scope, σ.Reaches strict data w.around ∧ σ.resolve? path = none

theorem Node.recordError_of_renderAll {strict : Bool} {data : Json}
    {ns : List Node} {e : RenderError}
    (h : (renderAll strict ⟨data, []⟩ ns).result = .error e) :
    RecordError strict data ns e := by
  obtain ⟨w, hw, σ, hσ, hraises⟩ := exists_place_of_error h
  rcases hraises.cases with
    ⟨binder, p, v, huse, hv, hrefuses, rfl⟩ | ⟨p, huse, hstrict, hnone, rfl⟩
  · exact ⟨w, hw, ⟨binder, huse⟩, σ, hσ, v, hv, hrefuses⟩
  · exact ⟨hstrict, w, hw, huse, σ, hσ, hnone⟩

/-- Whatever the syntax of its tags, a template is either wrong, and then for
every record and in both modes with the same error, or it has a tree, and then
no record and no mode makes it wrong: an error is one of the record, raised by
a field of the tree. -/
theorem render_error_cause (delimiters : Delimiters) (template : Text) :
    (∃ cause, ∀ strict data,
        (render strict delimiters template data).result = .error (.template cause)) ∨
      ∃ ns, Node.parse (delimiters.tokens template) = .ok ns ∧
        ∀ strict data e, (render strict delimiters template data).result = .error e →
          RecordError strict data ns e := by
  cases hparse : Node.parse (delimiters.tokens template) with
  | error cause =>
      refine .inl ⟨cause, fun strict data => ?_⟩
      rw [render, hparse]
      rfl
  | ok ns =>
      refine .inr ⟨ns, rfl, fun strict data e he => ?_⟩
      rw [render, hparse] at he
      exact Node.recordError_of_renderAll he

end Template

end Explainer
