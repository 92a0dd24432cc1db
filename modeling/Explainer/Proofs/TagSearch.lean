import Explainer.Template.Token
import Mathlib.Data.List.Basic
import Mathlib.Data.Nat.Find

/-!
# What the search for a bracketed tag finds

A search runs from the left and takes the first bracket that fits, at both
ends of a tag. This file says what that amounts to, without the search.

At the front of a text a tag is an opening bracket, an expression that is not
empty and stays on its line, and a closing bracket: `StartsTag`. Many
expressions can qualify, because brackets may stand inside of one; the search
takes the shortest, and `IsExpression` says of an expression alone that it is
that one. Further to the right, the search passes over a position exactly if
no tag starts there. Three statements sum this up, and they are all that the
rest of the development knows about the search: it finds nothing if no tag
starts anywhere, it finds the first tag with its shortest expression, and it
reports no position but one where a tag starts.
-/

namespace Explainer.Template

/-- What the search takes for the expression of a tag: a non-empty text on one
line, and the closing bracket is not met before its end. -/
structure IsExpression (closing e : Text) : Prop where
  ne_nil : e ≠ []
  single_line : '\n' ∉ e
  shortest : ∀ k, 0 < k → k < e.length → ¬ closing <+: (e ++ closing).drop k

/-- A complete tag stands at the front of the text. -/
def StartsTag (opening closing s : Text) : Prop :=
  ∃ e rest, e ≠ [] ∧ '\n' ∉ e ∧ s = opening ++ e ++ closing ++ rest

theorem not_startsTag_nil (opening closing : Text) :
    ¬ StartsTag opening closing [] := by
  rintro ⟨e, rest, hne, _, h⟩
  rw [eq_comm] at h
  simp only [List.append_eq_nil_iff] at h
  exact hne h.1.1.2

namespace IsExpression

theorem singleton {closing : Text} {c : Char} (hc : c ≠ '\n') :
    IsExpression closing [c] where
  ne_nil := List.cons_ne_nil c []
  single_line := by simpa using fun h => hc h.symm
  shortest k hpos hlt := by rw [List.length_singleton] at hlt; omega

/-- A character may be put in front where the bracket does not follow it. -/
theorem cons {closing e : Text} {c : Char} (he : IsExpression closing e)
    (hc : c ≠ '\n') (hclosing : ¬ closing <+: e ++ closing) :
    IsExpression closing (c :: e) where
  ne_nil := List.cons_ne_nil c e
  single_line := by
    rw [List.mem_cons, not_or]
    exact ⟨fun h => hc h.symm, he.single_line⟩
  shortest := by
    intro k hpos hlt
    obtain ⟨k, rfl⟩ : ∃ m, k = m + 1 := ⟨k - 1, by omega⟩
    rw [List.cons_append, List.drop_succ_cons]
    cases k with
    | zero => exact hclosing
    | succ k =>
        rw [List.length_cons] at hlt
        exact he.shortest (k + 1) (Nat.succ_pos k) (by omega)

theorem of_cons {closing e : Text} {c : Char}
    (he : IsExpression closing (c :: e)) (hne : e ≠ []) :
    IsExpression closing e ∧ ¬ closing <+: e ++ closing := by
  have hlen : 0 < e.length := List.length_pos_of_ne_nil hne
  refine ⟨⟨hne, fun h => he.single_line (List.mem_cons_of_mem c h), ?_⟩, ?_⟩
  · intro k hpos hlt
    have h := he.shortest (k + 1) (Nat.succ_pos k)
      (by rw [List.length_cons]; omega)
    rwa [List.cons_append, List.drop_succ_cons] at h
  · have h := he.shortest 1 Nat.one_pos (by rw [List.length_cons]; omega)
    rwa [List.cons_append, List.drop_succ_cons, List.drop_zero] at h

end IsExpression

/-- Either no position of a text has a property, or there is a first that has. -/
theorem exists_first (P : Text → Prop) (s : Text) :
    (∀ k, ¬ P (s.drop k)) ∨
      ∃ gap t, s = gap ++ t ∧ P t ∧ ∀ k < gap.length, ¬ P (s.drop k) := by
  classical
  by_cases h : ∃ k, P (s.drop k)
  · refine .inr ⟨s.take (Nat.find h), s.drop (Nat.find h),
      (List.take_append_drop _ s).symm, Nat.find_spec h, ?_⟩
    intro k hk
    rw [List.length_take] at hk
    exact Nat.find_min h (by omega)
  · exact .inl fun k hk => h ⟨k, hk⟩

namespace Delimiter

/-! ## The expression -/

/-- What is found is an expression, and it stands there with its bracket. -/
theorem expressionBefore?_sound {closing : Text} :
    ∀ {s e : Text}, expressionBefore? closing s = some e →
      IsExpression closing e ∧ ∃ rest, s = e ++ closing ++ rest := by
  intro s
  induction s with
  | nil => intro e h; cases h
  | cons c cs ih =>
      intro e h
      simp only [expressionBefore?] at h
      split at h
      · cases h
      · next hc =>
          split at h
          · next hp =>
              cases h
              obtain ⟨rest, hrest⟩ := List.isPrefixOf_iff_prefix.mp hp
              exact ⟨.singleton hc, rest, by rw [← hrest]; rfl⟩
          · next hp =>
              obtain ⟨e, he, rfl⟩ := Option.map_eq_some_iff.mp h
              obtain ⟨hexp, rest, rfl⟩ := ih he
              refine ⟨hexp.cons hc fun hpre => hp ?_, rest, rfl⟩
              rw [List.isPrefixOf_iff_prefix]
              exact hpre.trans (List.prefix_append _ rest)

/-- Every expression is found. -/
theorem expressionBefore?_append {closing rest : Text} :
    ∀ {e : Text}, IsExpression closing e →
      expressionBefore? closing (e ++ closing ++ rest) = some e := by
  intro e
  induction e with
  | nil => intro he; exact absurd rfl he.ne_nil
  | cons c e ih =>
      intro he
      have hc : c ≠ '\n' := fun h => he.single_line (h ▸ List.mem_cons_self)
      rw [List.cons_append, List.cons_append]
      simp only [expressionBefore?]
      rw [if_neg hc]
      by_cases hne : e = []
      · subst hne
        rw [if_pos]
        rw [List.isPrefixOf_iff_prefix]
        exact List.prefix_append closing rest
      · obtain ⟨hexp, hclosing⟩ := he.of_cons hne
        rw [if_neg, ih hexp]
        · rfl
        · intro hp
          rw [List.isPrefixOf_iff_prefix] at hp
          refine hclosing (List.prefix_of_prefix_length_le hp
            (List.prefix_append _ rest) ?_)
          rw [List.length_append]
          exact Nat.le_add_left _ _

/-- Nothing is missed: where some text could stand in a tag, one is found. -/
theorem expressionBefore?_complete (closing rest : Text) :
    ∀ {e : Text}, e ≠ [] → '\n' ∉ e →
      expressionBefore? closing (e ++ closing ++ rest) ≠ none := by
  intro e
  induction e with
  | nil => intro hne _; exact absurd rfl hne
  | cons c e ih =>
      intro _ hline
      rw [List.mem_cons, not_or] at hline
      rw [List.cons_append, List.cons_append]
      simp only [expressionBefore?]
      rw [if_neg (Ne.symm hline.1)]
      split
      · exact Option.some_ne_none _
      · next hp =>
          have hne : e ≠ [] := by
            rintro rfl
            exact hp (List.isPrefixOf_iff_prefix.mpr (List.prefix_append _ _))
          rw [Ne, Option.map_eq_none_iff]
          exact ih hne hline.2

end Delimiter

/-- Where a tag starts, it can be read with its shortest expression. -/
theorem StartsTag.exists_expression {opening closing s : Text}
    (h : StartsTag opening closing s) :
    ∃ e rest, IsExpression closing e ∧ s = opening ++ e ++ closing ++ rest := by
  obtain ⟨e, rest, hne, hline, rfl⟩ := h
  obtain ⟨e', he'⟩ := Option.ne_none_iff_exists'.mp
    (Delimiter.expressionBefore?_complete closing rest hne hline)
  obtain ⟨hexp, rest', hs⟩ := Delimiter.expressionBefore?_sound he'
  refine ⟨e', rest', hexp, ?_⟩
  simp only [List.append_assoc] at hs ⊢
  rw [hs]

namespace Delimiter

/-! ## The tag at the front of a text -/

theorem bracketedAt?_sound {opening closing s e : Text}
    (h : bracketedAt? opening closing s = some e) :
    IsExpression closing e ∧ ∃ rest, s = opening ++ e ++ closing ++ rest := by
  simp only [bracketedAt?] at h
  split at h
  · next hp =>
      obtain ⟨t, rfl⟩ := List.isPrefixOf_iff_prefix.mp hp
      rw [List.drop_left] at h
      obtain ⟨hexp, rest, rfl⟩ := expressionBefore?_sound h
      exact ⟨hexp, rest, by simp only [List.append_assoc]⟩
  · cases h

theorem bracketedAt?_append (opening closing e rest : Text) :
    bracketedAt? opening closing (opening ++ e ++ closing ++ rest)
      = expressionBefore? closing (e ++ closing ++ rest) := by
  simp only [bracketedAt?, List.append_assoc]
  rw [if_pos (List.isPrefixOf_iff_prefix.mpr (List.prefix_append _ _)),
    List.drop_left]

theorem bracketedAt?_eq_none_iff {opening closing s : Text} :
    bracketedAt? opening closing s = none ↔ ¬ StartsTag opening closing s := by
  constructor
  · rintro h ⟨e, rest, hne, hline, rfl⟩
    rw [bracketedAt?_append] at h
    exact expressionBefore?_complete closing rest hne hline h
  · intro h
    rw [Option.eq_none_iff_forall_ne_some]
    intro e he
    obtain ⟨hexp, rest, rfl⟩ := bracketedAt?_sound he
    exact h ⟨e, rest, hexp.ne_nil, hexp.single_line, rfl⟩

/-! ## The first tag of a text -/

/-- The occurrence of a tag at a position. -/
def occurrenceAt (opening closing : Text) (pos : Nat) (e : Text) : Occurrence :=
  let first := pos + opening.length
  let last := first + e.length
  ⟨pos, last + closing.length, some (first, last)⟩

theorem bracketedFrom?_eq_none {opening closing : Text} :
    ∀ {s : Text} (pos : Nat), (∀ k, ¬ StartsTag opening closing (s.drop k)) →
      bracketedFrom? opening closing pos s = none := by
  intro s
  induction s with
  | nil => intro pos _; rfl
  | cons c cs ih =>
      intro pos h
      have hzero : bracketedAt? opening closing (c :: cs) = none :=
        bracketedAt?_eq_none_iff.mpr (h 0)
      simp only [bracketedFrom?, hzero]
      exact ih (pos + 1) fun k => h (k + 1)

/-- The tag that is first, with its shortest expression, is what the search
finds. -/
theorem bracketedFrom?_append {opening closing e rest : Text}
    (he : IsExpression closing e) :
    ∀ {gap : Text} (pos : Nat),
      (∀ k < gap.length, ¬ StartsTag opening closing
        ((gap ++ (opening ++ e ++ closing ++ rest)).drop k)) →
      bracketedFrom? opening closing pos
          (gap ++ (opening ++ e ++ closing ++ rest))
        = some (occurrenceAt opening closing (pos + gap.length) e) := by
  intro gap
  induction gap with
  | nil =>
      intro pos _
      obtain ⟨c, cs, hs⟩ : ∃ c cs, opening ++ e ++ closing ++ rest = c :: cs :=
        List.exists_cons_of_ne_nil (by simp [he.ne_nil])
      have hat := bracketedAt?_append opening closing e rest
      rw [expressionBefore?_append he] at hat
      rw [List.nil_append, hs] at *
      simp only [bracketedFrom?, hat]
      rfl
  | cons c gap ih =>
      intro pos h
      have hzero := bracketedAt?_eq_none_iff.mpr (h 0 (Nat.succ_pos _))
      rw [List.drop_zero, List.cons_append] at hzero
      rw [List.cons_append]
      simp only [bracketedFrom?, hzero]
      rw [ih (pos + 1) fun k hk => h (k + 1) (Nat.succ_lt_succ hk),
        List.length_cons, Nat.add_right_comm, Nat.add_assoc]

/-- What the search reports starts where a tag starts. -/
theorem bracketedFrom?_start {opening closing s : Text} {pos : Nat}
    {m : Occurrence} (h : bracketedFrom? opening closing pos s = some m) :
    ∃ k, m.start = pos + k ∧ StartsTag opening closing (s.drop k) := by
  rcases exists_first (StartsTag opening closing) s with
    hnone | ⟨gap, t, rfl, htag, hgap⟩
  · rw [bracketedFrom?_eq_none pos hnone] at h
    cases h
  · refine ⟨gap.length, ?_, by rwa [List.drop_left]⟩
    obtain ⟨e, rest, hexp, rfl⟩ := htag.exists_expression
    rw [bracketedFrom?_append hexp pos hgap] at h
    cases h
    rfl

end Delimiter

end Explainer.Template
