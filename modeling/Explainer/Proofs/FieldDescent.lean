import Explainer.Proofs.FieldPath
import Explainer.Template.Render
import Mathlib.Data.List.TakeWhile

/-!
# Descending into a value, and into a scope

A path is a list of segments with dots between them, and following it is
following one segment after the other. So a path of two parts leads where its
second part leads from the place that the first part leads to. This holds of
values (`Json.lookup?_append`), and it holds of scopes as well
(`Scope.resolve?_append`), where the first segment may be the name of a loop:
what a name stands for is the start of the descent, and the rest goes on from
there.

A loop changes the meaning of two names, that of its items and that of its
index. The last part of this file says what is found under these two, and
that nothing else is touched.
-/

namespace Explainer

/-! ## Values -/

namespace Json

theorem lookup?_of_isTrimmed {path : Text} (h : path.IsTrimmed) (v : Json) :
    v.lookup? path = descend? (path.splitOn '.') v := by
  have hne : path.isEmpty = false := List.isEmpty_eq_false_iff.mpr h.ne_nil
  rw [lookup?, h.trim_eq, hne]
  rfl

theorem descend?_append (segments rest : List Text) (v : Json) :
    descend? (segments ++ rest) v = (descend? segments v).bind (descend? rest) := by
  induction segments generalizing v with
  | nil => rfl
  | cons segment segments ih =>
      rw [List.cons_append, descend?, descend?, Option.bind_assoc]
      exact Option.bind_congr fun w _ => ih w

/-- The second part of a path is followed from where the first part leads. -/
theorem lookup?_append {p q : Text} (hp : p.IsTrimmed) (hq : q.IsTrimmed) (v : Json) :
    v.lookup? (p ++ '.' :: q) = (v.lookup? p).bind (lookup? q) := by
  have hpq : (p ++ '.' :: q).IsTrimmed := by
    rw [← List.singleton_append, ← List.append_assoc]
    exact hp.append hq ['.']
  rw [lookup?_of_isTrimmed hpq, List.splitOn_append_cons_self, descend?_append,
    lookup?_of_isTrimmed hp]
  exact Option.bind_congr fun w _ => (lookup?_of_isTrimmed hq w).symm

end Json

namespace Template

/-! ## The first name of a path -/

theorem dottedPath_append_iff {p q : Text} :
    DottedPath (p ++ '.' :: q) ↔ DottedPath p ∧ DottedPath q := by
  simp only [dottedPath_iff, isPath, List.splitOn_append_cons_self, List.all_append,
    Bool.and_eq_true]

namespace Scope

theorem ne_dot_of_notMem {p : Text} (h : '.' ∉ p) : ∀ c ∈ p, decide (c ≠ '.') = true := by
  intro c hc
  simpa using fun heq : c = '.' => h (heq ▸ hc)

theorem head_eq_self {p : Text} (h : '.' ∉ p) : head p = p :=
  List.takeWhile_eq_self_iff.mpr (ne_dot_of_notMem h)

theorem head_append {p : Text} (h : '.' ∉ p) (q : Text) : head (p ++ '.' :: q) = p := by
  rw [head, List.takeWhile_append_of_pos (ne_dot_of_notMem h),
    List.takeWhile_cons_of_neg (by simp), List.append_nil]

theorem dropWhile_eq_nil {p : Text} (h : '.' ∉ p) : p.dropWhile (· ≠ '.') = [] :=
  List.dropWhile_eq_nil_iff.mpr (ne_dot_of_notMem h)

theorem dropWhile_append {p : Text} (h : '.' ∉ p) (q : Text) :
    (p ++ '.' :: q).dropWhile (· ≠ '.') = '.' :: q := by
  rw [List.dropWhile_append_of_pos (ne_dot_of_notMem h), List.dropWhile_cons_of_neg (by simp)]

theorem tail_eq_nil {p : Text} (h : '.' ∉ p) : tail p = [] := by
  rw [tail, dropWhile_eq_nil h, List.drop_nil]

theorem tail_append {p : Text} (h : '.' ∉ p) (q : Text) : tail (p ++ '.' :: q) = q := by
  rw [tail, dropWhile_append h]
  rfl

theorem exists_first (path : Text) :
    '.' ∉ path ∨ ∃ first rest, '.' ∉ first ∧ path = first ++ '.' :: rest := by
  by_cases h : '.' ∈ path
  · obtain ⟨first, rest, heq, hfirst⟩ := List.eq_append_cons_of_mem h
    exact .inr ⟨first, rest, hfirst, heq⟩
  · exact .inl h

theorem head_append_eq (p q : Text) : head (p ++ '.' :: q) = head p := by
  rcases exists_first p with hdot | ⟨first, rest, hdot, rfl⟩
  · rw [head_append hdot, head_eq_self hdot]
  · rw [List.append_assoc, List.cons_append, head_append hdot, head_append hdot]

/-! ## Scopes -/

/-- The second part of a path is followed from where the first part leads,
also where the first name is that of a loop. -/
theorem resolve?_append (σ : Scope) {p q : Text} (hp : DottedPath p) (hq : DottedPath q) :
    σ.resolve? (p ++ '.' :: q) = (σ.resolve? p).bind (Json.lookup? q) := by
  rw [resolve?, resolve?, head_append_eq]
  cases Members.find? (head p) σ.bindings with
  | none => exact Json.lookup?_append hp.isTrimmed hq.isTrimmed σ.root
  | some v =>
      rcases exists_first p with hdot | ⟨first, rest, hdot, rfl⟩
      · rw [tail_append hdot, tail_eq_nil hdot]
        rfl
      · have hrest : DottedPath rest := (dottedPath_append_iff.mp hp).2
        rw [List.append_assoc, List.cons_append, tail_append hdot, tail_append hdot]
        exact Json.lookup?_append hrest.isTrimmed hq.isTrimmed v

/-- The path of the index of an item. -/
def loopIndex : Text := "loop.index".toList

section

variable {σ : Scope} {binder path name : Text} {index : Nat} {item : Json}

theorem find?_enter_self :
    Members.find? binder (σ.enter binder index item).bindings = some item := by
  rw [enter, Members.find?, if_pos rfl]

theorem find?_enter_loopName (h : binder ≠ loopName) :
    Members.find? loopName (σ.enter binder index item).bindings
      = some (.obj [("index".toList, .num (.int index))]) := by
  rw [enter, Members.find?, if_neg h, Members.find?, if_pos rfl]

theorem find?_enter_of_ne (hb : name ≠ binder) (hl : name ≠ loopName) :
    Members.find? name (σ.enter binder index item).bindings
      = Members.find? name σ.bindings := by
  rw [enter, Members.find?, if_neg hb.symm, Members.find?, if_neg hl.symm]

/-- A loop covers the name of its items and that of its index, and no other. -/
theorem resolve?_enter_of_ne (hb : head path ≠ binder) (hl : head path ≠ loopName) :
    (σ.enter binder index item).resolve? path = σ.resolve? path := by
  rw [resolve?, resolve?, find?_enter_of_ne hb hl]
  rfl

end

end Scope

end Template

end Explainer
