import Explainer.Template.Render
import Mathlib.Data.List.Forall2

/-!
# Renderings one after another

A tree is rendered part by part, and a loop round by round, and either way
one rendering is put behind another. A relation of renderings that this keeps
is a `Congruence`; it then holds of two loops when it holds of their rounds,
one by one. An error, on the other hand, comes from a single part: the whole
fails as its first failing part does.
-/

namespace Explainer.Template

namespace Rendering

/-- Renderings stay related when related ones are put behind them. -/
structure Congruence (R : Rendering → Rendering → Prop) : Prop where
  empty : R .empty .empty
  append : ∀ {a b c d : Rendering}, R a b → R c d → R (a ++ c) (b ++ d)

/-- The rounds of a loop whose items are counted from `k`. -/
def rounds (round : Json → Nat → Rendering) (items : List Json) (k : Nat) : Rendering :=
  (items.zipIdx k).foldr (fun (item, index) rest => round item index ++ rest) .empty

theorem rounds_cons (round : Json → Nat → Rendering) (item : Json)
    (items : List Json) (k : Nat) :
    rounds round (item :: items) k = round item k ++ rounds round items (k + 1) := rfl

/-- Loops are related when they run through related items, in related rounds. -/
theorem Congruence.rounds {R : Rendering → Rendering → Prop} (hR : Congruence R)
    {S : Json → Json → Prop} {f g : Json → Nat → Rendering}
    (hfg : ∀ v w i, S v w → R (f v i) (g w i)) {vs ws : List Json}
    (h : List.Forall₂ S vs ws) : ∀ k, R (rounds f vs k) (rounds g ws k) := by
  induction h with
  | nil => intro k; exact hR.empty
  | cons hvw _ ih =>
      intro k
      exact hR.append (hfg _ _ k hvw) (ih (k + 1))

theorem Congruence.rounds_self {R : Rendering → Rendering → Prop} (hR : Congruence R)
    {f g : Json → Nat → Rendering} (hfg : ∀ v i, R (f v i) (g v i)) (items : List Json)
    (k : Nat) : R (Rendering.rounds f items k) (Rendering.rounds g items k) :=
  hR.rounds (S := Eq) (fun v _ i heq => heq ▸ hfg v i) (List.forall₂_eq_eq_eq ▸ rfl) k

/-! ## Where an error comes from -/

theorem append_of_ok {a : Rendering} {s : Text} (h : a.result = .ok s) (b : Rendering) :
    a ++ b = ⟨a.missing ++ b.missing, b.result.map (s ++ ·)⟩ := by
  show append a b = _
  rw [append, h]

theorem append_of_error {a : Rendering} {e : RenderError} (h : a.result = .error e)
    (b : Rendering) : a ++ b = a := by
  show append a b = a
  rw [append, h]

theorem error_of_append {a b : Rendering} {e : RenderError}
    (h : (a ++ b).result = .error e) : a.result = .error e ∨ b.result = .error e := by
  cases ha : a.result with
  | error f => exact .inl (by rw [append_of_error ha] at h; rw [← ha, h])
  | ok s =>
      rw [append_of_ok ha] at h
      cases hb : b.result with
      | error f => rw [hb] at h; exact .inr h
      | ok t => rw [hb] at h; cases h

theorem error_of_rounds {round : Json → Nat → Rendering} {e : RenderError}
    {items : List Json} {k : Nat} (h : (rounds round items k).result = .error e) :
    ∃ item index, (item, index) ∈ items.zipIdx k ∧
      (round item index).result = .error e := by
  induction items generalizing k with
  | nil => cases h
  | cons item items ih =>
      rw [rounds_cons] at h
      rw [List.zipIdx_cons]
      rcases error_of_append h with hround | hrest
      · exact ⟨item, k, List.mem_cons_self, hround⟩
      · obtain ⟨item', index, hmem, herror⟩ := ih hrest
        exact ⟨item', index, List.mem_cons_of_mem _ hmem, herror⟩

end Rendering

/-- A loop over a resolved field runs its rounds, unless the field is no list. -/
def renderLoop (strict : Bool) (path : Text) (found : Option Json)
    (round : Json → Nat → Rendering) : Rendering :=
  match loopItems strict path found with
  | .error e => .fail e
  | .ok items => .rounds round items 0

namespace Node

theorem renderAll_append (strict : Bool) (scope : Scope) (ms ns : List Node) :
    renderAll strict scope (ms ++ ns) = renderAll strict scope ms ++ renderAll strict scope ns := by
  induction ms with
  | nil => exact (Rendering.empty_append _).symm
  | cons m ms ih => rw [List.cons_append, renderAll, ih, renderAll, Rendering.append_assoc]

theorem render_loop (strict : Bool) (scope : Scope) (binder path : Text)
    (body : List Node) :
    render strict scope (.loop binder path body) =
      renderLoop strict path (scope.resolve? path)
        fun item index => renderAll strict (scope.enter binder index item) body := by
  rw [render]
  rfl

end Node

end Explainer.Template
