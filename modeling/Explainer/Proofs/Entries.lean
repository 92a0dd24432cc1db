import Explainer.Json.Basic
import Mathlib.Data.Char
import Mathlib.Data.List.Lex

/-!
# Finite maps as lists of entries

The search for a key finds its first entry, and so it is a look-up whatever
the list. Lists that are built by setting keys have more to them: their keys
increase, and an entry is found wherever it stands.
-/

namespace Explainer

namespace Members

variable {α : Type} {key : Text} {value : α} {m : Members α}

/-! ## Searching -/

theorem find?_eq_some_iff :
    find? key m = some value ↔
      ∃ before after, m = before ++ (key, value) :: after ∧ key ∉ keys before := by
  induction m with
  | nil => simp
  | cons e m ih =>
      obtain ⟨k, u⟩ := e
      rw [find?]
      split
      · next hk =>
          subst hk
          constructor
          · intro h
            cases h
            exact ⟨[], m, rfl, List.not_mem_nil⟩
          · rintro ⟨before, after, heq, hnot⟩
            cases before with
            | nil => cases heq; rfl
            | cons e before =>
                cases heq
                exact absurd List.mem_cons_self hnot
      · next hk =>
          rw [ih]
          constructor
          · rintro ⟨before, after, rfl, hnot⟩
            refine ⟨(k, u) :: before, after, rfl, ?_⟩
            rintro (_ | ⟨_, hmem⟩)
            · exact hk rfl
            · exact hnot hmem
          · rintro ⟨before, after, heq, hnot⟩
            cases before with
            | nil => cases heq; exact absurd rfl hk
            | cons e before =>
                cases heq
                exact ⟨before, after, rfl, fun hmem => hnot (List.mem_cons_of_mem _ hmem)⟩

theorem mem_of_find? (h : find? key m = some value) : (key, value) ∈ m := by
  obtain ⟨before, after, rfl, -⟩ := find?_eq_some_iff.mp h
  exact List.mem_append_right before List.mem_cons_self

theorem mem_keys_iff : key ∈ m.keys ↔ (find? key m).isSome = true := by
  induction m with
  | nil => exact iff_of_false List.not_mem_nil Bool.false_ne_true
  | cons e rest ih =>
      obtain ⟨k, v⟩ := e
      rw [find?, keys, List.map_cons, List.mem_cons]
      split
      · next heq => exact iff_of_true (.inl heq.symm) rfl
      · next hne => rw [← ih, or_iff_right (Ne.symm hne)]; rfl

theorem find?_eq_none_iff : find? key m = none ↔ key ∉ m.keys := by
  rw [mem_keys_iff, Bool.not_eq_true, Option.isSome_eq_false_iff, Option.isNone_iff_eq_none]

/-! ## Setting a key -/

theorem find?_insert (key other : Text) (value : α) (m : Members α) :
    find? other (m.insert key value) = if other = key then some value else find? other m := by
  split
  · next h => rw [h, find?_insert_self]
  · next h => exact find?_insert_of_ne h value m

theorem mem_keys_insert_iff {other : Text} :
    other ∈ (Members.insert key value m).keys ↔ other = key ∨ other ∈ m.keys := by
  rw [mem_keys_iff, mem_keys_iff, find?_insert]
  split
  · next h => exact iff_of_true rfl (.inl h)
  · next h => exact (or_iff_right h).symm

theorem mem_of_mem_insert {e : Text × α} (h : e ∈ Members.insert key value m) :
    e = (key, value) ∨ e ∈ m := by
  induction m with
  | nil => exact .inl (List.mem_singleton.mp h)
  | cons e' rest ih =>
      obtain ⟨k, v⟩ := e'
      rw [insert] at h
      split at h
      · exact (List.mem_cons.mp h).imp_right (List.mem_cons_of_mem _)
      · split at h
        · exact List.mem_cons.mp h
        · rcases List.mem_cons.mp h with rfl | hrest
          · exact .inr List.mem_cons_self
          · exact (ih hrest).imp_right (List.mem_cons_of_mem _)

theorem Ordered.insert (h : m.Ordered) : (Members.insert key value m).Ordered := by
  induction m with
  | nil => exact List.pairwise_singleton _ _
  | cons e rest ih =>
      obtain ⟨k, v⟩ := e
      obtain ⟨hhead, hrest⟩ := List.pairwise_cons.mp h
      rw [Members.insert]
      split
      · next heq =>
          subst heq
          exact List.pairwise_cons.mpr ⟨hhead, hrest⟩
      · next hne =>
          split
          · next hlt =>
              refine List.pairwise_cons.mpr ⟨fun e he => ?_, h⟩
              rcases List.mem_cons.mp he with rfl | he
              · exact hlt
              · exact lt_trans hlt (hhead e he)
          · next hnlt =>
              have hlt : k < key := lt_of_le_of_ne (not_lt.mp hnlt) (Ne.symm hne)
              refine List.pairwise_cons.mpr ⟨fun e he => ?_, ih hrest⟩
              rcases mem_of_mem_insert he with rfl | he
              · exact hlt
              · exact hhead e he

/-- Where keys do not repeat, the search for a key finds its only entry. -/
theorem find?_of_mem (hm : m.Ordered) (h : (key, value) ∈ m) : find? key m = some value := by
  induction m with
  | nil => cases h
  | cons e rest ih =>
      obtain ⟨k, v⟩ := e
      obtain ⟨hhead, hrest⟩ := List.pairwise_cons.mp hm
      rw [find?]
      rcases List.mem_cons.mp h with heq | hmem
      · obtain ⟨rfl, rfl⟩ := Prod.mk.inj heq
        exact if_pos rfl
      · rw [if_neg (hhead _ hmem).ne]
        exact ih hrest hmem

end Members

end Explainer
