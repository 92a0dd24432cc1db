import Explainer.Json.Path
import Mathlib.Data.List.Forall2

/-!
# Values of one shape, and what a field path can see of it

Two values have one shape when only the wording of their strings differs:
the same containers stand in the same places, with the same keys and as many
items, around the same numbers, booleans and nulls. A string may stand for
any other, with one exception. Whether a string is empty is part of the
shape, because a template can ask that question.

A field path reads keys and counts items, so it cannot tell such values
apart: at every path both have parts of one shape, or neither has any part.
That is `lookup?_sameShape`, and the lemmas before it follow the descent from
one member or item down to the whole path.
-/

namespace Explainer

/-- Entries with the same keys and related values answer every key alike. -/
theorem Members.find?_rel {α : Type} {R : α → α → Prop} (key : Text) :
    ∀ {ms ns : Members α}, ms.keys = ns.keys →
      List.Forall₂ R (ms.map (·.2)) (ns.map (·.2)) →
      Option.Rel R (ms.find? key) (ns.find? key) := by
  intro ms
  induction ms with
  | nil =>
      intro ns hk _
      cases ns with
      | nil => exact .none
      | cons f fs => simp [Members.keys] at hk
  | cons e es ih =>
      intro ns hk hv
      cases ns with
      | nil => simp [Members.keys] at hk
      | cons f fs =>
          obtain ⟨k, v⟩ := e
          obtain ⟨l, w⟩ := f
          simp only [Members.keys, List.map_cons, List.cons.injEq] at hk hv
          obtain ⟨rfl, hk⟩ := hk
          cases hv with
          | cons hvw hv =>
              simp only [Members.find?]
              split
              · exact .some hvw
              · exact ih hk hv

namespace Json

/-- Both values are built alike, and differ in the wording of strings only. -/
inductive SameShape : Json → Json → Prop
  | null : SameShape .null .null
  | bool (b : Bool) : SameShape (.bool b) (.bool b)
  | num (n : Number) : SameShape (.num n) (.num n)
  | str {s t : Text} (h : s = [] ↔ t = []) : SameShape (.str s) (.str t)
  | arr {vs ws : List Json} (h : List.Forall₂ SameShape vs ws) :
      SameShape (.arr vs) (.arr ws)
  | obj {ms ns : Members Json} (hk : ms.keys = ns.keys)
      (hv : List.Forall₂ SameShape (ms.map (·.2)) (ns.map (·.2))) :
      SameShape (.obj ms) (.obj ns)

theorem getElem?_sameShape {vs ws : List Json}
    (h : List.Forall₂ SameShape vs ws) :
    ∀ i : Nat, Option.Rel SameShape vs[i]? ws[i]? := by
  induction h with
  | nil => intro i; exact .none
  | cons hvw _ ih =>
      intro i
      cases i with
      | zero => exact .some hvw
      | succ i => simpa using ih i

theorem child?_sameShape {v w : Json} (h : SameShape v w) (segment : Text) :
    Option.Rel SameShape (v.child? segment) (w.child? segment) := by
  cases h with
  | null | bool | num | str _ => exact .none
  | obj hk hv => exact Members.find?_rel segment hk hv
  | arr hi =>
      simp only [child?]
      cases readIndex? segment with
      | none => exact .none
      | some i => exact getElem?_sameShape hi i

theorem descend?_sameShape (segments : List Text) :
    ∀ {v w : Json}, SameShape v w →
      Option.Rel SameShape (descend? segments v) (descend? segments w) := by
  induction segments with
  | nil => intro v w h; exact .some h
  | cons segment rest ih =>
      intro v w h
      have hc := child?_sameShape h segment
      simp only [descend?]
      revert hc
      cases v.child? segment <;> cases w.child? segment <;> intro hc <;> cases hc
      · exact .none
      · next h' => exact ih h'

/-- Values of one shape answer every field path alike. -/
theorem lookup?_sameShape {v w : Json} (h : SameShape v w) (path : Text) :
    Option.Rel SameShape (v.lookup? path) (w.lookup? path) := by
  simp only [lookup?]
  split
  · exact .some h
  · exact descend?_sameShape _ h

end Json

end Explainer
