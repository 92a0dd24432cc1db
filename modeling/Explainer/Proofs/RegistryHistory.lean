import Explainer.Proofs.Entries
import Explainer.Proofs.SequentialLoad

/-!
# A registry against its history

A registry keeps no history, but what its observers say is determined by the
templates that were offered to it, in the order in which they were. They come
one by one, in batches and from loads, and all three are the same thing: a
registry extended by a list (`Update.apply_eq_extend`). So a whole history is
one list of offers, and the two facts that carry the rest are inductions over
it. Of the templates of a type, one by one, the policy keeps the last or the
first (`Registry.get?_extend`), and the entries stay in the order of their
keys, each under the type of its own template (`Registry.WellFormed.extend`).

The second is why the observers agree. The list of types and the size are read
off the entries, while the others search them for a key: they could differ if
a key stood there twice, or a template under a key that is not its type.
-/

namespace Explainer

/-! ## What a policy keeps -/

namespace DuplicatePolicy

/-- Of templates of one type, in the order in which they are offered, the one that stays. -/
def kept (policy : DuplicatePolicy) (candidates : List MessageTemplate) :
    Option MessageTemplate :=
  match policy with
  | lastWins => candidates.getLast?
  | reject => candidates.head?

theorem kept_toList (policy : DuplicatePolicy) (o : Option MessageTemplate) :
    policy.kept o.toList = o := by
  cases policy <;> cases o <;> rfl

/-- What has been kept so far stands for all that was offered so far. -/
theorem kept_toList_append (policy : DuplicatePolicy) (a b : List MessageTemplate) :
    policy.kept ((policy.kept a).toList ++ b) = policy.kept (a ++ b) := by
  cases policy with
  | lastWins =>
      simp only [kept, List.getLast?_append]
      cases a.getLast? <;> rfl
  | reject => cases a <;> rfl

theorem kept_eq_none_iff {policy : DuplicatePolicy} {candidates : List MessageTemplate} :
    policy.kept candidates = none ↔ candidates = [] := by
  cases policy with
  | lastWins => exact List.getLast?_eq_none_iff
  | reject => exact List.head?_eq_none_iff

end DuplicatePolicy

namespace Registry

variable {r : Registry}

theorem get?_insert (r : Registry) (t : MessageTemplate) (type : Text) :
    (r.insert t).get? type
      = r.policy.kept ((r.get? type).toList ++ [t].filter (·.type = type)) := by
  by_cases htype : t.type = type
  · subst htype
    rw [List.filter_cons_of_pos (by simp), List.filter_nil]
    unfold insert
    cases hget : r.get? t.type with
    | none => exact (get?_put_self r t).trans (r.policy.kept_toList (some t)).symm
    | some previous =>
        cases r.policy with
        | lastWins => exact get?_put_self r t
        | reject => exact hget
  · rw [List.filter_cons_of_neg (by simpa using htype), List.filter_nil, List.append_nil,
      DuplicatePolicy.kept_toList]
    unfold insert
    split
    · rfl
    · exact get?_put_of_ne r t (Ne.symm htype)

/-- What a batch leaves for a type, after what was there. -/
theorem get?_extend (r : Registry) (batch : List MessageTemplate) (type : Text) :
    (r.extend batch).get? type
      = r.policy.kept ((r.get? type).toList ++ batch.filter (·.type = type)) := by
  induction batch generalizing r with
  | nil => rw [extend_nil, List.filter_nil, List.append_nil, DuplicatePolicy.kept_toList]
  | cons t rest ih =>
      rw [extend_cons, ih, policy_insert, get?_insert, DuplicatePolicy.kept_toList_append,
        List.append_assoc, ← List.filter_append, List.singleton_append]

/-! ## Well-formed registries -/

/-- The entries of a registry stand in the order of their keys, each under its own type. -/
structure WellFormed (r : Registry) : Prop where
  ordered : r.templates.Ordered
  own_type : ∀ type t, (type, t) ∈ r.templates → t.type = type

theorem WellFormed.empty (policy : DuplicatePolicy) : (empty policy).WellFormed :=
  ⟨List.Pairwise.nil, fun _ _ h => absurd h List.not_mem_nil⟩

theorem WellFormed.put (h : r.WellFormed) (t : MessageTemplate) : (r.put t).WellFormed := by
  refine ⟨h.ordered.insert, fun type t' hmem => ?_⟩
  rcases Members.mem_of_mem_insert hmem with heq | hmem
  · obtain ⟨rfl, rfl⟩ := Prod.mk.inj heq
    rfl
  · exact h.own_type type t' hmem

theorem WellFormed.insert (h : r.WellFormed) (t : MessageTemplate) : (r.insert t).WellFormed := by
  unfold Registry.insert
  split
  · exact h
  · exact h.put t

theorem WellFormed.extend (h : r.WellFormed) (batch : List MessageTemplate) :
    (r.extend batch).WellFormed := by
  induction batch generalizing r with
  | nil => exact h
  | cons t rest ih => exact ih (h.insert t)

theorem WellFormed.mem_templates_iff (h : r.WellFormed) {type : Text} {t : MessageTemplate} :
    (type, t) ∈ r.templates ↔ r.get? type = some t :=
  ⟨Members.find?_of_mem h.ordered, Members.mem_of_find?⟩

theorem mem_types_iff {type : Text} : type ∈ r.types ↔ r.contains type = true :=
  Members.mem_keys_iff

/-- What the observers of a registry say when the given templates have been offered to an empty one,
in their order. -/
structure Reflects (r : Registry) (policy : DuplicatePolicy) (offered : List MessageTemplate) :
    Prop where
  get?_eq : ∀ type, r.get? type = policy.kept (offered.filter (·.type = type))
  get?_eq_none_iff : ∀ type, r.get? type = none ↔ ∀ t ∈ offered, t.type ≠ type
  /-- A template is stored under its own type, and for that type it is found. -/
  stored : ∀ type t, (type, t) ∈ r.templates ↔ t.type = type ∧ r.get? type = some t
  /-- The types are listed in order, each once. -/
  types_increase : r.types.Pairwise (· < ·)
  mem_types_iff : ∀ type, type ∈ r.types ↔ ∃ t ∈ offered, t.type = type
  size_eq : r.size = r.types.length
  isEmpty_iff : r.isEmpty = true ↔ r.types = []
  /-- What is asked about one type has one answer. -/
  observers : ∀ type,
    r.contains type = (r.get? type).isSome ∧
      (TemplateSource.registry r).lookup? type = r.get? type ∧
      r.matching type = (r.get? type).toList ∧ (r.contains type = true ↔ type ∈ r.types)

theorem filter_type_eq_nil_iff {offered : List MessageTemplate} {type : Text} :
    offered.filter (·.type = type) = [] ↔ ∀ t ∈ offered, t.type ≠ type := by
  simp only [List.filter_eq_nil_iff, decide_eq_true_eq, ne_eq]

theorem reflects_extend (policy : DuplicatePolicy) (offered : List MessageTemplate) :
    ((empty policy).extend offered).Reflects policy offered := by
  have hwf := (WellFormed.empty policy).extend offered
  have hget (type : Text) : ((empty policy).extend offered).get? type
      = policy.kept (offered.filter (·.type = type)) :=
    get?_extend (empty policy) offered type
  have hnone (type : Text) :
      ((empty policy).extend offered).get? type = none ↔ ∀ t ∈ offered, t.type ≠ type := by
    rw [hget, DuplicatePolicy.kept_eq_none_iff, filter_type_eq_nil_iff]
  refine ⟨hget, hnone, fun type t => ⟨fun hmem => ?_, fun ⟨_, hfound⟩ => ?_⟩,
    List.pairwise_map.mpr hwf.ordered, fun type => ?_, (List.length_map _).symm, ?_,
    fun type => ⟨rfl, rfl, rfl, mem_types_iff.symm⟩⟩
  · exact ⟨hwf.own_type type t hmem, hwf.mem_templates_iff.mp hmem⟩
  · exact hwf.mem_templates_iff.mpr hfound
  · rw [mem_types_iff, contains, Option.isSome_iff_ne_none, ne_eq, hnone]
    simp only [ne_eq, not_forall, not_not, exists_prop]
  · rw [isEmpty, size, types, Members.keys, beq_iff_eq, List.length_eq_zero_iff,
      List.map_eq_nil_iff]

end Registry

/-! ## Histories -/

/-- A way in which templates come into a registry. -/
inductive Update where
  | insert (t : MessageTemplate)
  | extend (batch : List MessageTemplate)
  /-- A load, with how the starts of its fetches went and all that is heard of them. -/
  | load (l : Load.Loader) (base : Text) (fetches : List Load.Start)
      (signals : List (Load.Signal Load.Answer))

namespace Update

/-- The registry after an update. A load that is ended by a name leaves it as it is. -/
def apply (r : Registry) : Update → Registry
  | insert t => r.insert t
  | extend batch => r.extend batch
  | load l base fetches signals =>
    ((l.loadWith? r base fetches signals).map (·.registry)).getD r

/-- The templates that an update offers, in their order: for a load, those of the sets that came
and could be read. -/
def offered : Update → List MessageTemplate
  | insert t => [t]
  | extend batch => batch
  | load l _ fetches signals =>
    match Load.joinLabelled? fetches signals with
    | none => []
    | some settled =>
      (l.extractor.contributions ((fetches.map (·.label)).zip settled)).reduceOption.flatten

/-- Every update extends the registry by what it offers. -/
theorem apply_eq_extend (r : Registry) (u : Update) : u.apply r = r.extend u.offered := by
  cases u with
  | insert t => rfl
  | extend batch => rfl
  | load l base fetches signals =>
      have hload := congrArg (Option.map Prod.fst) (l.outcome_loadWith? r base fetches signals)
      rw [Option.map_map, Option.map_map] at hload
      rw [apply, show (·.registry) = Prod.fst ∘ Load.Loaded.outcome from rfl, hload, offered]
      cases Load.joinLabelled? fetches signals <;> rfl

end Update

namespace Registry

/-- The registry after a history that starts with an empty one. -/
def replay (policy : DuplicatePolicy) (history : List Update) : Registry :=
  history.foldl Update.apply (empty policy)

theorem foldl_apply (r : Registry) (history : List Update) :
    history.foldl Update.apply r = r.extend (history.flatMap Update.offered) := by
  induction history generalizing r with
  | nil => rfl
  | cons u rest ih =>
      rw [List.foldl_cons, ih, Update.apply_eq_extend, List.flatMap_cons, extend_append]

/-- A registry says of its history what its policy has it say, and only that. So a type that has a
template keeps one, and under the policy that refuses duplicates it keeps the same one. -/
theorem replay_reflects (policy : DuplicatePolicy) (history : List Update) :
    (replay policy history).Reflects policy (history.flatMap Update.offered) ∧
    ∀ later : List Update,
      (∀ type, type ∈ (replay policy history).types →
        type ∈ (replay policy (history ++ later)).types) ∧
      (policy = .reject → ∀ type t, (replay policy history).get? type = some t →
        (replay policy (history ++ later)).get? type = some t) := by
  have hall (history : List Update) :
      (replay policy history).Reflects policy (history.flatMap Update.offered) := by
    rw [replay, foldl_apply]
    exact reflects_extend policy _
  refine ⟨hall history, fun later => ⟨fun type htype => ?_, fun hpolicy type t ht => ?_⟩⟩
  · obtain ⟨t, ht, htype⟩ := ((hall history).mem_types_iff type).mp htype
    refine ((hall (history ++ later)).mem_types_iff type).mpr ⟨t, ?_, htype⟩
    rw [List.flatMap_append]
    exact List.mem_append_left _ ht
  · rw [(hall history).get?_eq] at ht
    rw [(hall (history ++ later)).get?_eq, List.flatMap_append, List.filter_append,
      ← DuplicatePolicy.kept_toList_append, ht, hpolicy]
    rfl

/-- The first template of a type stays when a batch and a load bring others. -/
theorem replay_reflects_duplicates :
    let first : MessageTemplate := ⟨"T".toList, "a".toList, none⟩
    let history : List Update :=
      [.insert first, .extend [⟨"U".toList, "b".toList, none⟩, ⟨"T".toList, "c".toList, none⟩]]
    let later : List Update :=
      [.load ⟨fun _ => ⟨0, .hangs⟩, .lines, none⟩ "tips/".toList [⟨"s".toList, none⟩]
        [.report 0 (.finished (.ok "T|d\nS|e".toList))]]
    (replay .reject history).get? "T".toList = some first ∧
      (replay .reject (history ++ later)).types = ["S".toList, "T".toList, "U".toList] ∧
      (replay .reject (history ++ later)).get? "T".toList = some first := by
  intro first history later
  have hfirst : (replay .reject history).get? "T".toList = some first := rfl
  exact ⟨hfirst, rfl, ((replay_reflects .reject history).2 later).2 rfl _ _ hfirst⟩

end Registry

end Explainer
