import Explainer.Proofs.RegistryHistory

/-!
# No template is lost, and none is counted twice

An offer to a registry ends in one of three ways: the template is stored where
there was none, it is stored and an old one is handed back for it, or it is
handed back itself. Seen from outside the three are one law, that what is
stored and what has been handed back are together what was stored before and
what was offered (`Registry.insert_perm`), and the law adds up along any
sequence of offers.

The counts follow from it. Every offer is counted once, and it hands back one
template unless it is counted as added; so the size of the registry grows by
the number of those. And since the counts of a batch are a sum over its
offers, it does not matter how a sequence of offers is cut into batches.

The law needs the entries to be in the order of their keys, as every registry
has them that has grown from an empty one. With a key that stands there twice,
what is replaced need not be what the search for the key finds.
-/

namespace Explainer

/-! ## Entries -/

namespace Members

variable {α : Type} {key : Text} {value : α} {m : Members α}

theorem find?_eq_none_of_lt (h : ∀ e ∈ m, key < e.1) : find? key m = none := by
  induction m with
  | nil => rfl
  | cons e rest ih =>
      obtain ⟨k, v⟩ := e
      have hlt : key < k := h (k, v) List.mem_cons_self
      rw [find?, if_neg hlt.ne']
      exact ih fun e he => h e (List.mem_cons_of_mem _ he)

/-- Setting a key exchanges the value that it had, if it had one, for the new one. -/
theorem insert_perm (hm : m.Ordered) :
    ((insert key value m).map (·.2) ++ (find? key m).toList).Perm (value :: m.map (·.2)) := by
  induction m with
  | nil => exact List.Perm.refl _
  | cons e rest ih =>
      obtain ⟨k, v⟩ := e
      obtain ⟨hhead, hrest⟩ := List.pairwise_cons.mp hm
      rw [insert]
      split
      · next heq =>
          rw [find?, if_pos heq.symm]
          exact (List.perm_append_singleton v (rest.map (·.2))).cons value
      · next hne =>
          rw [find?, if_neg (Ne.symm hne)]
          split
          · next hlt =>
              -- The key would have to stand before `k`, so it stands nowhere.
              rw [find?_eq_none_of_lt fun e he => lt_trans hlt (hhead e he)]
              exact List.Perm.of_eq (List.append_nil _)
          · exact ((ih hrest).cons v).trans (List.Perm.swap value v (rest.map (·.2)))

end Members

/-! ## Counts -/

namespace MergeStats

theorem sum_cons (s : MergeStats) (counts : List MergeStats) :
    sum (s :: counts) = s + sum counts := rfl

theorem sum_append (a b : List MergeStats) : sum (a ++ b) = sum a + sum b := by
  induction a with
  | nil => exact (zero_add _).symm
  | cons s rest ih => rw [List.cons_append, sum_cons, sum_cons, ih, add_assoc]

theorem foldl_add (s : MergeStats) (counts : List MergeStats) :
    counts.foldl (· + ·) s = s + sum counts := by
  induction counts generalizing s with
  | nil => rfl
  | cons c rest ih => rw [List.foldl_cons, ih, sum_cons, add_assoc]

/-- The counts of offers with the given outcomes. -/
def ofOutcomes (outcomes : List Outcome) : MergeStats := sum (outcomes.map ofOutcome)

theorem ofOutcomes_cons (o : Outcome) (outcomes : List Outcome) :
    ofOutcomes (o :: outcomes) = ofOutcome o + ofOutcomes outcomes := rfl

theorem ofOutcomes_append (a b : List Outcome) :
    ofOutcomes (a ++ b) = ofOutcomes a + ofOutcomes b := by
  rw [ofOutcomes, List.map_append, sum_append]
  rfl

/-- Every offer is counted once. -/
theorem total_ofOutcomes (outcomes : List Outcome) :
    (ofOutcomes outcomes).total = outcomes.length := by
  induction outcomes with
  | nil => rfl
  | cons o rest ih =>
      have hone : (ofOutcome o).total = 1 := by cases o <;> rfl
      rw [total] at hone ih
      simp only [ofOutcomes_cons, total, added_add, replaced_add, rejected_add, List.length_cons]
      omega

end MergeStats

/-- What an offer gives back. -/
def Outcome.handedBack : Outcome → List MessageTemplate
  | added => []
  | replaced previous => [previous]
  | rejected t => [t]

/-- Only the offers that are counted as added give nothing back. -/
theorem MergeStats.added_ofOutcomes (outcomes : List Outcome) :
    (ofOutcomes outcomes).added + (outcomes.flatMap Outcome.handedBack).length
      = outcomes.length := by
  induction outcomes with
  | nil => rfl
  | cons o rest ih =>
      have hone : (ofOutcome o).added + o.handedBack.length = 1 := by cases o <;> rfl
      rw [ofOutcomes_cons, added_add, List.flatMap_cons, List.length_append, List.length_cons]
      omega

/-! ## Offers -/

namespace Registry

variable {r : Registry}

/-- The templates of a registry. -/
def stored (r : Registry) : List MessageTemplate := r.templates.map (·.2)

theorem length_stored (r : Registry) : r.stored.length = r.size := List.length_map _

@[simp] theorem policy_extend (r : Registry) (batch : List MessageTemplate) :
    (r.extend batch).policy = r.policy := by
  induction batch generalizing r with
  | nil => rfl
  | cons t rest ih => rw [extend_cons, ih, policy_insert]

theorem ordered_insert (h : r.templates.Ordered) (t : MessageTemplate) :
    (r.insert t).templates.Ordered := by
  unfold Registry.insert
  split
  · exact h
  · exact h.insert

theorem ordered_extend (h : r.templates.Ordered) (batch : List MessageTemplate) :
    (r.extend batch).templates.Ordered := by
  induction batch generalizing r with
  | nil => exact h
  | cons t rest ih => exact ih (ordered_insert h t)

/-- What is stored after one offer and what it hands back are what was stored and what was
offered. -/
theorem insert_perm (h : r.templates.Ordered) (t : MessageTemplate) :
    ((r.insert t).stored ++ (r.outcome t).handedBack).Perm (t :: r.stored) := by
  have hput : ((r.put t).stored ++ (r.get? t.type).toList).Perm (t :: r.stored) :=
    Members.insert_perm h
  unfold insert outcome
  cases hget : r.get? t.type with
  | none => rwa [hget] at hput
  | some previous =>
      cases r.policy with
      | lastWins => rwa [hget] at hput
      | reject => exact List.perm_append_singleton t r.stored

theorem extend_perm (h : r.templates.Ordered) (offered : List MessageTemplate) :
    ((r.extend offered).stored ++ (r.outcomes offered).flatMap Outcome.handedBack).Perm
      (r.stored ++ offered) := by
  induction offered generalizing r with
  | nil => exact List.Perm.refl _
  | cons t rest ih =>
      rw [extend_cons, outcomes, List.flatMap_cons]
      let stored := ((r.insert t).extend rest).stored
      let later := ((r.insert t).outcomes rest).flatMap Outcome.handedBack
      calc (stored ++ ((r.outcome t).handedBack ++ later)).Perm
            ((r.outcome t).handedBack ++ (stored ++ later)) := List.perm_append_comm_assoc ..
        List.Perm _ ((r.outcome t).handedBack ++ ((r.insert t).stored ++ rest)) :=
            (ih (ordered_insert h t)).append_left _
        List.Perm _ (((r.insert t).stored ++ (r.outcome t).handedBack) ++ rest) := by
            rw [List.append_assoc]
            exact List.perm_append_comm_assoc ..
        List.Perm _ ((t :: r.stored) ++ rest) := (insert_perm h t).append_right rest
        List.Perm _ (r.stored ++ t :: rest) := List.perm_middle.symm

/-! ## Batches -/

theorem extendStats_eq_ofOutcomes (r : Registry) (batch : List MessageTemplate) :
    r.extendStats batch = .ofOutcomes (r.outcomes batch) := by
  rw [extendStats, ← List.foldl_map, MergeStats.foldl_add, MergeStats.zero_add]
  rfl

theorem outcomes_append (r : Registry) (a b : List MessageTemplate) :
    r.outcomes (a ++ b) = r.outcomes a ++ (r.extend a).outcomes b := by
  induction a generalizing r with
  | nil => rfl
  | cons t rest ih => rw [List.cons_append, outcomes, ih, outcomes, List.cons_append, extend_cons]

theorem extendStats_append (r : Registry) (a b : List MessageTemplate) :
    r.extendStats (a ++ b) = r.extendStats a + (r.extend a).extendStats b := by
  rw [extendStats_eq_ofOutcomes, outcomes_append, MergeStats.ofOutcomes_append,
    ← extendStats_eq_ofOutcomes, ← extendStats_eq_ofOutcomes]

theorem extendStats_cons (r : Registry) (t : MessageTemplate) (batch : List MessageTemplate) :
    r.extendStats (t :: batch) = .ofOutcome (r.outcome t) + (r.insert t).extendStats batch := by
  rw [extendStats_eq_ofOutcomes, outcomes, MergeStats.ofOutcomes_cons, ← extendStats_eq_ofOutcomes]

theorem extendStats_of_policy (r : Registry) (batch : List MessageTemplate) :
    (r.policy = .reject → (r.extendStats batch).replaced = 0) ∧
      (r.policy = .lastWins → (r.extendStats batch).rejected = 0) := by
  induction batch generalizing r with
  | nil => exact ⟨fun _ => rfl, fun _ => rfl⟩
  | cons t rest ih =>
      have hfirst : (r.policy = .reject → (MergeStats.ofOutcome (r.outcome t)).replaced = 0) ∧
          (r.policy = .lastWins → (MergeStats.ofOutcome (r.outcome t)).rejected = 0) := by
        unfold outcome
        cases r.get? t.type <;> cases r.policy <;> simp [MergeStats.ofOutcome]
      obtain ⟨hreplaced, hrejected⟩ := ih (r.insert t)
      rw [policy_insert] at hreplaced hrejected
      rw [extendStats_cons, MergeStats.replaced_add, MergeStats.rejected_add]
      exact ⟨fun h => by rw [hfirst.1 h, hreplaced h], fun h => by rw [hfirst.2 h, hrejected h]⟩

/-- Only offers that are counted as added make a registry larger. -/
theorem size_extend (h : r.templates.Ordered) (batch : List MessageTemplate) :
    (r.extend batch).size = r.size + (r.extendStats batch).added := by
  have hlength := (extend_perm h batch).length_eq
  have hadded := MergeStats.added_ofOutcomes (r.outcomes batch)
  rw [List.length_append, List.length_append, length_stored, length_stored] at hlength
  rw [length_outcomes] at hadded
  rw [extendStats_eq_ofOutcomes]
  omega

theorem sum_batchStats (r : Registry) (batches : List (List MessageTemplate)) :
    MergeStats.sum (r.batchStats batches) = r.extendStats batches.flatten := by
  induction batches generalizing r with
  | nil => rfl
  | cons batch rest ih =>
      rw [batchStats, MergeStats.sum_cons, ih, List.flatten_cons, extendStats_append]

/-- How a batch is counted. -/
structure Accounts (r : Registry) (batch : List MessageTemplate) : Prop where
  total_eq : (r.extendStats batch).total = batch.length
  size_eq : (r.extend batch).size = r.size + (r.extendStats batch).added
  replaced_eq : r.policy = .reject → (r.extendStats batch).replaced = 0
  rejected_eq : r.policy = .lastWins → (r.extendStats batch).rejected = 0

/-- What is stored after some offers, and what they have handed back, is what was stored before and
what was offered. The counts of batches agree with that, batch by batch, and add up to the counts
of the one batch that they make together. -/
theorem offers_conserved (h : r.templates.Ordered) :
    (∀ offered : List MessageTemplate,
      ((r.extend offered).stored ++ (r.outcomes offered).flatMap Outcome.handedBack).Perm
        (r.stored ++ offered)) ∧
    (∀ earlier batch : List MessageTemplate, (r.extend earlier).Accounts batch) ∧
    ∀ batches : List (List MessageTemplate),
      (r.batchStats batches).foldl (· + ·) .zero = r.extendStats batches.flatten ∧
        batches.foldl extend r = r.extend batches.flatten := by
  have hordered (earlier : List MessageTemplate) : (r.extend earlier).templates.Ordered :=
    ordered_extend h earlier
  refine ⟨extend_perm h, fun earlier batch => ?_, fun batches => ⟨?_, ?_⟩⟩
  · obtain ⟨hreplaced, hrejected⟩ := extendStats_of_policy (r.extend earlier) batch
    refine ⟨?_, size_extend (hordered earlier) batch, hreplaced, hrejected⟩
    rw [extendStats_eq_ofOutcomes, MergeStats.total_ofOutcomes, length_outcomes]
  · rw [MergeStats.foldl_add, MergeStats.zero_add, sum_batchStats]
  · exact List.foldl_flatten.symm

/-- Two batches bring a type that is there and, twice, one that is not. -/
theorem offers_conserved_repeats :
    let old : MessageTemplate := ⟨"T".toList, "a".toList, none⟩
    let new : MessageTemplate := ⟨"T".toList, "b".toList, some "s".toList⟩
    let other : MessageTemplate := ⟨"U".toList, "c".toList, none⟩
    let last := (empty .lastWins).put old
    let first := (empty .reject).put old
    (last.templates.Ordered ∧ first.templates.Ordered) ∧
    ([new, other] ++ [old, other]).Perm ([old] ++ [new, other, other]) ∧
    ([old, other] ++ [new, other]).Perm ([old] ++ [new, other, other]) ∧
    (last.extend [new, other, other]).size = last.size + 1 ∧
    [(⟨0, 1, 0⟩ : MergeStats), ⟨1, 1, 0⟩].foldl (· + ·) .zero
      = last.extendStats [new, other, other] := by
  intro old new other last first
  have hlast : last.templates.Ordered := List.pairwise_singleton _ _
  have hfirst : first.templates.Ordered := List.pairwise_singleton _ _
  obtain ⟨hperm, haccounts, hbatches⟩ := offers_conserved hlast
  exact ⟨⟨hlast, hfirst⟩, hperm [new, other, other],
    (offers_conserved hfirst).1 [new, other, other],
    (haccounts [] [new, other, other]).size_eq, (hbatches [[new], [other, other]]).1⟩

end Registry

end Explainer
