import Explainer.Proofs.Words
import Explainer.Template.Path

/-!
# Field paths are plain words

An identifier is made of letters, digits and three marks, in any script. So
it has no white space and none of the characters that mean something in a
template: the dot between segments, the brackets of tags, the end of a line.
A field path adds dots only. It follows that an expression which is a path
is read as just that path, and that a path can be written wherever a word
can.
-/

namespace Explainer.Template

theorem isBlank_of_isIdentifierChar {c : Char} (h : isIdentifierChar c = true) :
    isBlank c = false := by
  simp only [isIdentifierChar, Bool.or_eq_true, decide_eq_true_eq] at h
  rcases h with ((h | rfl) | rfl) | rfl
  · exact isBlank_of_isAlphanumeric h
  all_goals decide

/-- A dotted sequence of identifiers. -/
def DottedPath (p : Text) : Prop :=
  ∃ ids : List Text, ids ≠ [] ∧ (∀ id ∈ ids, isIdentifier id = true) ∧
    p = ['.'].intercalate ids

section

variable {s p : Text}

theorem mem_intercalate {sep : Text} {c : Char} :
    ∀ {ws : List Text}, c ∈ sep.intercalate ws → c ∈ sep ∨ ∃ w ∈ ws, c ∈ w := by
  intro ws
  induction ws with
  | nil => intro h; cases h
  | cons w ws ih =>
      intro h
      cases ws with
      | nil =>
          rw [List.intercalate_singleton] at h
          exact .inr ⟨w, List.mem_cons_self, h⟩
      | cons v ws =>
          rw [List.intercalate_cons_cons, List.mem_append, List.mem_append] at h
          rcases h with (h | h) | h
          · exact .inr ⟨w, List.mem_cons_self, h⟩
          · exact .inl h
          · rcases ih h with hsep | ⟨u, hu, hmem⟩
            · exact .inl hsep
            · exact .inr ⟨u, List.mem_cons_of_mem w hu, hmem⟩

theorem isIdentifier_iff :
    isIdentifier s = true ↔ s ≠ [] ∧ ∀ c ∈ s, isIdentifierChar c = true := by
  rw [isIdentifier, Bool.and_eq_true, Bool.not_eq_true', List.isEmpty_eq_false_iff,
    List.all_eq_true]

theorem DottedPath.of_isIdentifier (h : isIdentifier s = true) : DottedPath s := by
  refine ⟨[s], List.cons_ne_nil s [], ?_, List.intercalate_singleton.symm⟩
  intro w hw
  rwa [List.mem_singleton.mp hw]

theorem DottedPath.isPath (h : DottedPath p) : isPath p = true := by
  obtain ⟨ids, hne, hall, rfl⟩ := h
  have hdot : ∀ id ∈ ids, '.' ∉ id := by
    intro id hid hmem
    have := (isIdentifier_iff.mp (hall id hid)).2 '.' hmem
    exact absurd this (by decide)
  rw [Template.isPath, List.splitOn_intercalate '.' hdot hne, List.all_eq_true]
  exact hall

theorem dottedPath_iff : DottedPath p ↔ isPath p = true := by
  refine ⟨DottedPath.isPath, fun h => ?_⟩
  rw [Template.isPath, List.all_eq_true] at h
  exact ⟨p.splitOn '.', List.splitOn_ne_nil '.' p, h,
    (List.intercalate_splitOn '.').symm⟩

instance (p : Text) : Decidable (DottedPath p) :=
  decidable_of_iff' _ dottedPath_iff

/-- A path has no characters but those of identifiers, and dots. -/
theorem DottedPath.mem (h : DottedPath p) {c : Char} (hc : c ∈ p) :
    isIdentifierChar c = true ∨ c = '.' := by
  obtain ⟨ids, _, hall, rfl⟩ := h
  rcases mem_intercalate hc with hdot | ⟨id, hid, hmem⟩
  · exact .inr (List.mem_singleton.mp hdot)
  · exact .inl ((isIdentifier_iff.mp (hall id hid)).2 c hmem)

theorem DottedPath.ne_nil (h : DottedPath p) : p ≠ [] := by
  rintro rfl
  exact absurd h.isPath (by decide)

theorem DottedPath.isWord (h : DottedPath p) : Text.IsWord p := by
  refine ⟨h.ne_nil, fun c hc => ?_⟩
  rcases h.mem hc with hid | rfl
  · exact isBlank_of_isIdentifierChar hid
  · decide

theorem DottedPath.isTrimmed (h : DottedPath p) : p.IsTrimmed := h.isWord.isTrimmed

/-- A path is read as itself. -/
theorem DottedPath.readPath (h : DottedPath p) : readPath p = .ok p := by
  rw [Template.readPath, h.isTrimmed.trim_eq]
  simp only [h.isPath]
  rw [if_neg (by simpa using h.ne_nil), if_pos trivial]

end

end Explainer.Template
