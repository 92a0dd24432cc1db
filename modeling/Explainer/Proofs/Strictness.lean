import Explainer.Proofs.FieldPlaces
import Explainer.Proofs.TreeSimulation

/-!
# Strict and lenient rendering

The two ways of rendering part where a field is missing, and they never meet
again: the strict one has failed, and the lenient one goes on with less text
and may fail later for a reason of its own. Up to that point they are the
same. So a strict success is a lenient success without any note, a strict
failure for another reason is the same lenient failure, and a lenient failure
leaves the strict rendering no way to succeed.

`Refines` says this of two renderings in a form that the parts of a tree can
be put together with. Its middle case is the parting: once the strict side
misses a field, nothing is said of the lenient side.
-/

namespace Explainer.Template

namespace Rendering

/-- What a strict rendering says about a lenient one of the same thing. -/
inductive Refines : Rendering → Rendering → Prop
  | ok (s : Text) : Refines (.text s) (.text s)
  | missing {a b : Rendering} {path : Text}
      (h : a.result = .error (.missingField path)) : Refines a b
  | error {a b : Rendering} {e : RenderError} (ha : a.result = .error e)
      (hb : b.result = .error e) : Refines a b

namespace Refines

variable {a b : Rendering}

theorem of_ok (h : Refines a b) {out : Text} (ha : a.result = .ok out) : b = .text out := by
  cases h with
  | ok s => cases ha; rfl
  | missing hm => rw [hm] at ha; cases ha
  | error he _ => rw [he] at ha; cases ha

theorem of_error (h : Refines a b) {e : RenderError} (ha : a.result = .error e)
    (hne : ∀ path, e ≠ .missingField path) : b.result = .error e := by
  cases h with
  | ok s => cases ha
  | missing hm =>
      rw [hm] at ha
      cases ha
      exact absurd rfl (hne _)
  | error he hb => rw [hb, ← he, ha]

theorem of_lenient_error (h : Refines a b) {e : RenderError} (hb : b.result = .error e) :
    a.result = .error e ∨ ∃ path, a.result = .error (.missingField path) := by
  cases h with
  | ok s => cases hb
  | missing hm => exact .inr ⟨_, hm⟩
  | error ha he => exact .inl (by rw [ha, ← he, hb])

end Refines

theorem text_append (s : Text) (r : Rendering) :
    text s ++ r = ⟨r.missing, r.result.map (s ++ ·)⟩ := rfl

theorem congruence_refines : Congruence Refines where
  empty := .ok []
  append := by
    intro a b c d hab hcd
    cases hab with
    | ok s =>
        cases hcd with
        | ok t => exact .ok (s ++ t)
        | missing h => exact .missing (by rw [text_append, h]; rfl)
        | error hc hd =>
            exact .error (by rw [text_append, hc]; rfl) (by rw [text_append, hd]; rfl)
    | missing h => exact .missing (by rw [append_of_error h, h])
    | error ha hb =>
        exact .error (by rw [append_of_error ha, ha]) (by rw [append_of_error hb, hb])

end Rendering

open Rendering (Refines congruence_refines)

theorem renderField_refines (path : Text) (found : Option Json) :
    Refines (renderField true path found) (renderField false path found) := by
  cases found with
  | none => exact .missing rfl
  | some v => exact .ok _

theorem loopItems_strict (path : Text) (found : Option Json) :
    loopItems true path found = .error (.missingField path) ∨
      loopItems true path found = loopItems false path found := by
  cases found with
  | none => exact .inl rfl
  | some v => cases v <;> exact .inr rfl

theorem simulation_refines : Simulation Refines Eq (fun _ => True) true false where
  toCongruence := congruence_refines
  text := .ok
  field := by
    rintro σ _ path rfl _
    exact renderField_refines path (σ.resolve? path)
  condition := by
    rintro σ _ path rfl _
    rfl
  loop := by
    rintro σ _ path rfl _ f g binder hfg
    rw [renderLoop, renderLoop]
    rcases loopItems_strict path (σ.resolve? path) with hmissing | heq
    · rw [hmissing]
      exact .missing rfl
    · rw [heq]
      cases loopItems false path (σ.resolve? path) with
      | error e => exact .error rfl rfl
      | ok items => exact congruence_refines.rounds_self (fun v i => hfg rfl) items 0

theorem render_refines (delimiters : Delimiters) (template : Text) (data : Json) :
    Refines (render true delimiters template data)
      (render false delimiters template data) := by
  rw [render, render]
  split
  · exact .error rfl rfl
  · exact simulation_refines.renderAll rfl (fun _ _ => trivial)

/-- A field that strict rendering misses is one that the template shows or
loops through. -/
theorem use_of_render_missing {strict : Bool} {delimiters : Delimiters} {template path : Text}
    {data : Json}
    (h : (render strict delimiters template data).result = .error (.missingField path)) :
    ∃ t ∈ delimiters.tokens template,
      .value path ∈ t.uses ∨ ∃ binder, .source binder path ∈ t.uses := by
  rw [render] at h
  cases hparse : Node.parse (delimiters.tokens template) with
  | error e => rw [hparse] at h; cases h
  | ok ns =>
      rw [hparse] at h
      obtain ⟨w, hw, σ, _, hraise⟩ := Node.exists_place_of_error h
      have huse := Node.use_mem_usesAll hw
      rw [Node.usesAll_parse hparse, List.mem_flatMap] at huse
      obtain ⟨t, ht, hin⟩ := huse
      refine ⟨t, ht, ?_⟩
      rcases hraise.missing.1 with hvalue | ⟨binder, hsource⟩
      · exact .inl (hvalue ▸ hin)
      · exact .inr ⟨binder, hsource ▸ hin⟩

/-- Strict and lenient rendering agree wherever strict rendering misses no
field, and it misses none but those that some tag shows or loops through. -/
theorem render_strict_lenient (delimiters : Delimiters) (template : Text) (data : Json) :
    let strict := render true delimiters template data
    let lenient := render false delimiters template data
    (∀ out, strict.result = .ok out → lenient.result = .ok out ∧ lenient.events = []) ∧
    (∀ e, strict.result = .error e → (∀ path, e ≠ .missingField path) →
      lenient.result = .error e) ∧
    (∀ e, lenient.result = .error e →
      strict.result = .error e ∨ ∃ path, strict.result = .error (.missingField path)) ∧
    (∀ path, strict.result = .error (.missingField path) →
      ∃ t ∈ delimiters.tokens template,
        .value path ∈ t.uses ∨ ∃ binder, .source binder path ∈ t.uses) := by
  intro strict lenient
  have hrefines : Refines strict lenient := render_refines delimiters template data
  refine ⟨fun out hout => ?_, fun e => hrefines.of_error, fun e => hrefines.of_lenient_error,
    fun path => use_of_render_missing⟩
  rw [hrefines.of_ok hout]
  exact ⟨rfl, rfl⟩

end Explainer.Template
