import Explainer.Proofs.RenderRounds
import Explainer.Proofs.TreeFields

/-!
# Two renderings of one tree

Several questions about rendering compare two renderings of one tree: with
records that differ, in scopes that differ, or with and without strictness.
All of them go through the tree in the same way, and that is done here once.
What is left to each of them is what its relation makes of a text, of a field
that is shown, of a condition and of a loop. A `Simulation` is these answers,
given for the paths that occur in the tree.
-/

namespace Explainer.Template

/-- The relation `R` of renderings follows from the relation `T` of scopes, in
everything that a node can do, for paths with the property `P`. -/
structure Simulation (R : Rendering → Rendering → Prop) (T : Scope → Scope → Prop)
    (P : Text → Prop) (strict strict' : Bool) : Prop extends Rendering.Congruence R where
  text : ∀ t, R (.text t) (.text t)
  field : ∀ {σ τ : Scope} {path : Text}, T σ τ → P path →
    R (renderField strict path (σ.resolve? path)) (renderField strict' path (τ.resolve? path))
  condition : ∀ {σ τ : Scope} {path : Text}, T σ τ → P path →
    (σ.resolve? path).any Json.holds = (τ.resolve? path).any Json.holds
  loop : ∀ {σ τ : Scope} {path : Text}, T σ τ → P path →
    ∀ {f g : Scope → Rendering} (binder : Text), (∀ {ρ π : Scope}, T ρ π → R (f ρ) (g π)) →
    R (renderLoop strict path (σ.resolve? path) fun v i => f (σ.enter binder i v))
      (renderLoop strict' path (τ.resolve? path) fun v i => g (τ.enter binder i v))

namespace Simulation

variable {R : Rendering → Rendering → Prop} {T : Scope → Scope → Prop} {P : Text → Prop}
  {strict strict' : Bool}

mutual

theorem render (h : Simulation R T P strict strict') {σ τ : Scope} (hT : T σ τ) {n : Node}
    (hn : ∀ u ∈ n.uses, P u.path) : R (n.render strict σ) (n.render strict' τ) := by
  match n with
  | .text t => exact h.text t
  | .value path => exact h.field hT (hn _ List.mem_cons_self)
  | .branch negate path thenPart elsePart =>
      simp only [Node.uses, List.forall_mem_cons, List.forall_mem_append] at hn
      obtain ⟨(hpath : P path), hthen, helse⟩ := hn
      rw [Node.render, Node.render, h.condition hT hpath]
      split
      · exact h.renderAll hT hthen
      · exact h.renderAll hT helse
  | .loop binder path body =>
      rw [Node.uses, List.forall_mem_cons] at hn
      obtain ⟨(hpath : P path), hbody⟩ := hn
      rw [Node.render_loop, Node.render_loop]
      exact h.loop hT hpath binder (fun hρ => h.renderAll hρ hbody)

theorem renderAll (h : Simulation R T P strict strict') {σ τ : Scope} (hT : T σ τ)
    {ns : List Node} (hns : ∀ u ∈ Node.usesAll ns, P u.path) :
    R (Node.renderAll strict σ ns) (Node.renderAll strict' τ ns) := by
  match ns with
  | [] => exact h.empty
  | n :: rest =>
      rw [Node.usesAll, List.forall_mem_append] at hns
      rw [Node.renderAll, Node.renderAll]
      exact h.append (h.render hT hns.1) (h.renderAll hT hns.2)

end

end Simulation

end Explainer.Template
