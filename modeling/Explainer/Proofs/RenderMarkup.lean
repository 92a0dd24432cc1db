import Explainer.Proofs.EscapedText
import Explainer.Proofs.JsonShape
import Explainer.Proofs.TreeSimulation

/-!
# What a record says adds no markup to its message

The values of a record come from outside, and they are written into markup.
This file proves that their wording cannot take part in it: two records of
one shape, rendered with one template, fail with the same error or yield
texts with the same markup characters in the same order.

There are two halves to the argument. A value that is shown is escaped, and
an escaped text has no markup character at all, whatever was shown and
however deep inside the value its strings were. And the wording of a string
decides nothing else: not which branch is taken, since that asks for
emptiness only; not how many rounds a loop runs; and not which field a path
finds, inside a loop or outside. `Alike` is the relation of renderings that
carries both halves through a tree, and `Scope.Alike` the relation of scopes
that loops keep.
-/

namespace Explainer

open Json (SameShape)
open Markup (marks)

namespace Json

theorem holds_sameShape {v w : Json} (h : SameShape v w) :
    v.holds = w.holds := by
  cases h with
  | str hst =>
      simp only [holds]
      rw [Bool.eq_iff_iff, Bool.not_eq_true', Bool.not_eq_true',
        List.isEmpty_eq_false_iff, List.isEmpty_eq_false_iff, not_iff_not]
      exact hst
  | _ => rfl

end Json

namespace Template

/-! ## Renderings that differ in wording only -/

/-- The same error, or texts with the same markup characters. -/
inductive SameMarks : Except RenderError Text → Except RenderError Text → Prop
  | error (e : RenderError) : SameMarks (.error e) (.error e)
  | ok {s t : Text} (h : marks s = marks t) : SameMarks (.ok s) (.ok t)

/-- Renderings that report the same missing fields and have the same markup. -/
structure Rendering.Alike (a b : Rendering) : Prop where
  missing : a.missing = b.missing
  result : SameMarks a.result b.result

namespace Rendering

theorem Alike.refl (r : Rendering) : r.Alike r := by
  refine ⟨rfl, ?_⟩
  cases r.result with
  | error e => exact .error e
  | ok s => exact .ok rfl

theorem Alike.append {a b c d : Rendering} (hab : a.Alike b)
    (hcd : c.Alike d) : (a ++ c).Alike (b ++ d) := by
  obtain ⟨am, ar⟩ := a
  obtain ⟨bm, br⟩ := b
  obtain ⟨rfl, hr⟩ := hab
  show (Rendering.append _ c).Alike (Rendering.append _ d)
  cases hr with
  | error e => exact ⟨rfl, .error e⟩
  | ok hst =>
      obtain ⟨cm, cr⟩ := c
      obtain ⟨dm, dr⟩ := d
      obtain ⟨rfl, hr⟩ := hcd
      refine ⟨rfl, ?_⟩
      cases hr with
      | error e => exact .error e
      | ok huv => exact .ok (by simp only [Markup.marks_append, hst, huv])

end Rendering

/-! ## Scopes that differ in wording only -/

/-- The same names bound in the same order, to values of one shape. -/
structure Scope.Alike (σ τ : Scope) : Prop where
  root : SameShape σ.root τ.root
  names : Members.keys σ.bindings = Members.keys τ.bindings
  values : List.Forall₂ SameShape (σ.bindings.map (·.2)) (τ.bindings.map (·.2))

namespace Scope

theorem Alike.resolve? {σ τ : Scope} (h : σ.Alike τ) (path : Text) :
    Option.Rel SameShape (σ.resolve? path) (τ.resolve? path) := by
  have hb := Members.find?_rel (head path) h.names h.values
  simp only [Scope.resolve?]
  revert hb
  cases Members.find? (head path) σ.bindings <;>
    cases Members.find? (head path) τ.bindings <;> intro hb <;> cases hb
  · exact Json.lookup?_sameShape h.root path
  · next hvw => exact Json.lookup?_sameShape hvw (tail path)

theorem Alike.enter {σ τ : Scope} (h : σ.Alike τ) (binder : Text) (index : Nat)
    {v w : Json} (hvw : SameShape v w) :
    (σ.enter binder index v).Alike (τ.enter binder index w) := by
  have hloop : SameShape (.obj [("index".toList, .num (.int index))])
      (.obj [("index".toList, .num (.int index))]) :=
    .obj rfl (.cons (.num _) .nil)
  refine ⟨h.root, ?_, .cons hvw (.cons hloop h.values)⟩
  show binder :: loopName :: Members.keys σ.bindings
    = binder :: loopName :: Members.keys τ.bindings
  rw [h.names]

end Scope

/-! ## The three questions that rendering asks about a field -/

theorem any_holds_sameShape {a b : Option Json} (h : Option.Rel SameShape a b) :
    a.any Json.holds = b.any Json.holds := by
  cases h with
  | none => rfl
  | some hvw => exact Json.holds_sameShape hvw

theorem renderField_alike (strict : Bool) (path : Text) {a b : Option Json}
    (h : Option.Rel SameShape a b) :
    (renderField strict path a).Alike (renderField strict path b) := by
  cases h with
  | none => exact .refl _
  | some _ =>
      refine ⟨rfl, .ok ?_⟩
      rw [Markup.marks_escape, Markup.marks_escape]

theorem loopItems_sameShape (strict : Bool) (path : Text) {a b : Option Json}
    (h : Option.Rel SameShape a b) :
    (∃ e, loopItems strict path a = .error e ∧
      loopItems strict path b = .error e) ∨
    (∃ vs ws, loopItems strict path a = .ok vs ∧
      loopItems strict path b = .ok ws ∧ List.Forall₂ SameShape vs ws) := by
  cases h with
  | none =>
      cases strict
      · exact .inr ⟨[], [], rfl, rfl, .nil⟩
      · exact .inl ⟨_, rfl, rfl⟩
  | some hvw =>
      cases hvw with
      | arr hi => exact .inr ⟨_, _, rfl, rfl, hi⟩
      | null => exact .inr ⟨[], [], rfl, rfl, .nil⟩
      | bool | num | str | obj => exact .inl ⟨_, rfl, rfl⟩

/-! ## Whole trees -/

theorem Rendering.congruence_alike : Rendering.Congruence Rendering.Alike where
  empty := .refl _
  append := .append

theorem simulation_alike (strict : Bool) :
    Simulation Rendering.Alike Scope.Alike (fun _ => True) strict strict where
  toCongruence := Rendering.congruence_alike
  text _ := .refl _
  field h _ := renderField_alike strict _ (h.resolve? _)
  condition h _ := any_holds_sameShape (h.resolve? _)
  loop := by
    intro σ τ path h _ f g binder hfg
    rw [renderLoop, renderLoop]
    rcases loopItems_sameShape strict path (h.resolve? path) with
      ⟨e, ha, hb⟩ | ⟨vs, ws, ha, hb, hi⟩
    · rw [ha, hb]
      exact .refl _
    · rw [ha, hb]
      exact Rendering.congruence_alike.rounds
        (fun v w i (hvw : SameShape v w) => hfg (h.enter binder i hvw)) hi 0

theorem Node.renderAll_alike {strict : Bool} {σ τ : Scope} (h : σ.Alike τ)
    (ns : List Node) : (renderAll strict σ ns).Alike (renderAll strict τ ns) :=
  (simulation_alike strict).renderAll h (fun _ _ => trivial)

/-- The wording of the strings of a record is without influence on markup: for
every template, every pair of tag families and either strictness, records of
one shape are refused with one error, or their messages have one and the same
sequence of markup characters. The missing fields reported are the same too. -/
theorem render_marks_eq (strict : Bool) (delimiters : Delimiters)
    (template : Text) {v w : Json} (h : SameShape v w) :
    (render strict delimiters template v).missing
        = (render strict delimiters template w).missing ∧
    ((∃ e, (render strict delimiters template v).result = .error e ∧
        (render strict delimiters template w).result = .error e) ∨
      (∃ s t, (render strict delimiters template v).result = .ok s ∧
        (render strict delimiters template w).result = .ok t ∧
        marks s = marks t)) := by
  have hscope : Scope.Alike ⟨v, []⟩ ⟨w, []⟩ := ⟨h, rfl, .nil⟩
  have halike : (render strict delimiters template v).Alike
      (render strict delimiters template w) := by
    simp only [render]
    split
    · exact .refl _
    · exact Node.renderAll_alike hscope _
  obtain ⟨hm, hr⟩ := halike
  refine ⟨hm, ?_⟩
  revert hr
  cases (render strict delimiters template v).result <;>
    cases (render strict delimiters template w).result <;> intro hr <;> cases hr
  · exact .inl ⟨_, rfl, rfl⟩
  · next hst => exact .inr ⟨_, _, rfl, rfl, hst⟩

/-- A record full of markup and of template text, and one with plain words. -/
def loudRecord : Json :=
  .obj [("tag".toList, .str "<b title='[% end %]'>".toList),
    ("tags".toList, .arr [.str ['"'], .arr [.str ['\x60']], .str []])]

@[inherit_doc loudRecord] def calmRecord : Json :=
  .obj [("tag".toList, .str ['b']),
    ("tags".toList, .arr [.str ['i'], .arr [.str ['u']], .str []])]

/-- A template that shows a field, asks for it, and runs through a list. -/
def tagTemplate : Text :=
  "<p>[% if tag %]\x7b\x7btag\x7d\x7d[% end %]".toList
    ++ "[% for t in tags %]<i>\x7b\x7bt\x7d\x7d</i>[% end %]".toList

theorem render_marks_eq_loud_calm :
    SameShape loudRecord calmRecord ∧
      (render true .standard tagTemplate loudRecord).missing
          = (render true .standard tagTemplate calmRecord).missing ∧
      ((∃ e, (render true .standard tagTemplate loudRecord).result = .error e ∧
          (render true .standard tagTemplate calmRecord).result = .error e) ∨
        (∃ s t, (render true .standard tagTemplate loudRecord).result = .ok s ∧
          (render true .standard tagTemplate calmRecord).result = .ok t ∧
          marks s = marks t)) := by
  have h : SameShape loudRecord calmRecord := by
    refine .obj rfl (.cons (.str ?_) (.cons (.arr ?_) .nil))
    · decide
    · exact .cons (.str (by decide)) (.cons (.arr (.cons (.str (by decide)) .nil))
        (.cons (.str Iff.rfl) .nil))
  exact ⟨h, render_marks_eq true .standard tagTemplate h⟩

end Template

end Explainer
