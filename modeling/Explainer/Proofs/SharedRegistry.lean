import Explainer.Proofs.Conservation
import Mathlib.Data.List.Nodup
import Mathlib.Data.List.Sort

/-!
# Several clients of one registry

Clients that share a registry make calls that bring templates, and a call that
brings many offers them one by one: it holds the registry for one offer and
no longer. So between two offers of a batch, or of a set that is being loaded,
other clients may make theirs. `Shared` is the registry with its clients,
`Step` is one offer by any client that has one to make, and a run is any
sequence of steps from the start; its trace is the order in which the offers
came, each with its client and its outcome.

The registry does not know clients. What it holds is what the trace as a whole
leaves in it, and the counts of all clients together are the counts of that
one sequence (`Sound`). With that, the laws of a registry with one client hold
here for the clients together.

A client is aware of the others only through the types that it offers. If
nobody else offers them, the outcome of each of its offers is the one that it
would have had alone (`Run.outcomes_eq`), and so the order in which the clients
came leaves no mark, on them or on the registry.
-/

namespace Explainer

/-- A client of a shared registry. -/
structure Client where
  /-- What its calls have still to offer. -/
  pending : List MessageTemplate
  /-- What has become of what they have offered. -/
  answers : List Outcome

namespace Client

/-- What the calls of a client offer, in their order. -/
def plan (calls : List Update) : List MessageTemplate := calls.flatMap Update.offered

def start (calls : List Update) : Client := ⟨plan calls, []⟩

/-- The counts of all calls of the client, so far. -/
def stats (c : Client) : MergeStats := .ofOutcomes c.answers

end Client

/-- An offer that a client has made. -/
structure Offer where
  client : Nat
  template : MessageTemplate
  outcome : Outcome

/-- The offers of one client, in their order. -/
def offersOf (trace : List Offer) (i : Nat) : List Offer := trace.filter (·.client = i)

/-- A registry with its clients. -/
structure Shared where
  registry : Registry
  clients : List Client

namespace Shared

/-- An empty registry, and clients that are about to make the given calls. -/
def start (policy : DuplicatePolicy) (calls : List (List Update)) : Shared :=
  ⟨.empty policy, calls.map .start⟩

/-- A client makes its next offer. -/
inductive Step : Offer → Shared → Shared → Prop
  | offer {s : Shared} {i : Nat} {t : MessageTemplate} {rest : List MessageTemplate}
      {answers : List Outcome} (hclient : s.clients[i]? = some ⟨t :: rest, answers⟩) :
      Step ⟨i, t, s.registry.outcome t⟩ s
        ⟨s.registry.insert t, s.clients.set i ⟨rest, answers ++ [s.registry.outcome t]⟩⟩

/-- A run from the start, with the offers that have been made. -/
inductive Run (policy : DuplicatePolicy) (calls : List (List Update)) :
    List Offer → Shared → Prop
  | start : Run policy calls [] (.start policy calls)
  | step {trace : List Offer} {s s' : Shared} {o : Offer} (h : Run policy calls trace s)
      (hs : Step o s s') : Run policy calls (trace ++ [o]) s'

/-- The counts of all clients together. -/
def stats (s : Shared) : MergeStats := .sum (s.clients.map (·.stats))

/-- Whether every client has made all its offers. -/
def Done (s : Shared) : Prop := ∀ c ∈ s.clients, c.pending = []

end Shared

/-! ## The offers of one client -/

theorem offersOf_concat_self (trace : List Offer) (o : Offer) :
    offersOf (trace ++ [o]) o.client = offersOf trace o.client ++ [o] := by
  rw [offersOf, List.filter_append, List.filter_cons_of_pos (by simp)]
  rfl

theorem offersOf_concat_of_ne (trace : List Offer) {o : Offer} {i : Nat} (h : o.client ≠ i) :
    offersOf (trace ++ [o]) i = offersOf trace i := by
  rw [offersOf, List.filter_append, List.filter_cons_of_neg (by simpa using h)]
  exact List.append_nil _

theorem mem_offersOf {trace : List Offer} {o : Offer} (h : o ∈ trace) :
    o ∈ offersOf trace o.client :=
  List.mem_filter.mpr ⟨h, decide_eq_true rfl⟩

/-! ## One offer -/

/-- Ordered entries are determined by what the search for a key finds. -/
theorem Members.Ordered.ext {α : Type} {m m' : Members α} (hm : m.Ordered) (hm' : m'.Ordered)
    (h : ∀ key, Members.find? key m = Members.find? key m') : m = m' := by
  have : Std.Irrefl fun e e' : Text × α => e.1 < e'.1 := ⟨fun e => lt_irrefl e.1⟩
  have : Std.Antisymm fun e e' : Text × α => e.1 < e'.1 :=
    ⟨fun e e' hlt hlt' => absurd hlt' (lt_asymm hlt)⟩
  refine hm.eq_of_mem_iff hm' fun e => ⟨fun he => ?_, fun he => ?_⟩
  · exact Members.mem_of_find? ((h e.1).symm.trans (Members.find?_of_mem hm he))
  · exact Members.mem_of_find? ((h e.1).trans (Members.find?_of_mem hm' he))

namespace Registry

variable {r : Registry} {t : MessageTemplate}

theorem ext_of_get? {r' : Registry} (hpolicy : r.policy = r'.policy)
    (h : r.templates.Ordered) (h' : r'.templates.Ordered)
    (hget : ∀ type, r.get? type = r'.get? type) : r = r' := by
  obtain ⟨policy, templates⟩ := r
  obtain ⟨policy', templates'⟩ := r'
  obtain rfl : policy = policy' := hpolicy
  exact congrArg (Registry.mk policy) (h.ext h' hget)

theorem size_insert (h : r.templates.Ordered) (t : MessageTemplate) :
    (r.insert t).size = r.size + (MergeStats.ofOutcome (r.outcome t)).added := by
  have hsize := size_extend h [t]
  rwa [extendStats_cons, MergeStats.added_add] at hsize

theorem outcome_eq_added_iff : r.outcome t = .added ↔ r.contains t.type = false := by
  unfold outcome contains
  cases r.get? t.type <;> cases r.policy <;> simp

theorem contains_insert (r : Registry) (t : MessageTemplate) (type : Text) :
    (r.insert t).contains type = (r.contains type || decide (t.type = type)) := by
  rw [Bool.eq_iff_iff, Bool.or_eq_true, decide_eq_true_eq, contains, contains, get?_insert,
    Option.isSome_iff_ne_none, ne_eq, DuplicatePolicy.kept_eq_none_iff, List.append_eq_nil_iff,
    Option.toList_eq_nil_iff, not_and_or, ← ne_eq, ← Option.isSome_iff_ne_none]
  simp

/-- What becomes of an offer depends on what is there for its type. -/
theorem outcome_congr {r' : Registry} (hpolicy : r.policy = r'.policy)
    (hget : r.get? t.type = r'.get? t.type) : r.outcome t = r'.outcome t := by
  unfold outcome
  rw [hpolicy, hget]

end Registry

/-! ## Every offer by any client -/

/-- A list around an item, and with another item in its place. -/
theorem exists_around {α : Type} {l : List α} {i : Nat} {a : α} (h : l[i]? = some a) :
    ∃ before after, l = before ++ a :: after ∧ ∀ b, l.set i b = before ++ b :: after := by
  obtain ⟨hi, rfl⟩ := List.getElem?_eq_some_iff.mp h
  have hset (b : α) : l.set i b = l.take i ++ b :: l.drop (i + 1) := by
    rw [List.set_eq_take_append_cons_drop, if_pos hi]
  refine ⟨l.take i, l.drop (i + 1), ?_, hset⟩
  rw [← hset, List.set_getElem_self]

namespace Shared

variable {policy : DuplicatePolicy} {calls : List (List Update)} {trace : List Offer}
  {s s' : Shared} {o : Offer}

/-- What holds at any point of a run. -/
structure Sound (policy : DuplicatePolicy) (calls : List (List Update)) (trace : List Offer)
    (s : Shared) : Prop where
  /-- To the registry all offers are those of one sequence. -/
  registry_eq : s.registry = (Registry.empty policy).extend (trace.map (·.template))
  length_eq : s.clients.length = calls.length
  /-- A client has made the first of its offers, and knows what has become of them. -/
  client : ∀ i cs, calls[i]? = some cs → ∃ c, s.clients[i]? = some c ∧
    (offersOf trace i).map (·.template) ++ c.pending = Client.plan cs ∧
      c.answers = (offersOf trace i).map (·.outcome)
  known : ∀ o ∈ trace, o.client < calls.length
  added_eq : s.stats.added = s.registry.size
  added_once : ∀ type, trace.countP (fun o => o.outcome = .added ∧ o.template.type = type)
    = if s.registry.contains type then 1 else 0

namespace Sound

theorem start (policy : DuplicatePolicy) (calls : List (List Update)) :
    Sound policy calls [] (.start policy calls) where
  registry_eq := rfl
  length_eq := List.length_map _
  client i cs hcs := by
    refine ⟨.start cs, ?_, rfl, rfl⟩
    rw [Shared.start, List.getElem?_map, hcs]
    rfl
  known o h := absurd h List.not_mem_nil
  added_eq := by
    show (MergeStats.sum ((calls.map Client.start).map (·.stats))).added = 0
    induction calls with
    | nil => rfl
    | cons cs rest ih =>
        rw [List.map_cons, List.map_cons, MergeStats.sum_cons, MergeStats.added_add, ih]
        rfl
  added_once type := rfl

theorem ordered (h : Sound policy calls trace s) : s.registry.templates.Ordered := by
  rw [h.registry_eq]
  exact Registry.ordered_extend (r := .empty policy) List.Pairwise.nil _

theorem step (h : Sound policy calls trace s) (hs : Step o s s') :
    Sound policy calls (trace ++ [o]) s' := by
  obtain ⟨hclient⟩ := hs
  rename_i i t rest answers
  have hlt : i < s.clients.length := (List.getElem?_eq_some_iff.mp hclient).1
  exact {
    registry_eq := by
      rw [List.map_append, Registry.extend_append, ← h.registry_eq]
      rfl
    length_eq := (List.length_set ..).trans h.length_eq
    client := by
      intro j cs hcs
      obtain ⟨c, hc, hplan, hanswers⟩ := h.client j cs hcs
      rw [List.getElem?_set]
      by_cases hij : i = j
      · subst hij
        obtain rfl := Option.some.inj (hc.symm.trans hclient)
        refine ⟨_, by rw [if_pos rfl, if_pos hlt], ?_, ?_⟩
        · rw [offersOf_concat_self trace ⟨i, t, s.registry.outcome t⟩, List.map_append,
            ← hplan, List.append_assoc]
          rfl
        · rw [offersOf_concat_self trace ⟨i, t, s.registry.outcome t⟩, List.map_append,
            ← hanswers]
          rfl
      · rw [if_neg hij, offersOf_concat_of_ne trace (o := ⟨i, t, s.registry.outcome t⟩) hij]
        exact ⟨c, hc, hplan, hanswers⟩
    known := by
      intro o ho
      rcases List.mem_append.mp ho with ho | ho
      · exact h.known o ho
      · obtain rfl := List.mem_singleton.mp ho
        exact h.length_eq ▸ hlt
    added_eq := by
      obtain ⟨before, after, heq, hset⟩ := exists_around hclient
      have hadded := h.added_eq
      have hsize := Registry.size_insert h.ordered t
      have hone : (MergeStats.ofOutcomes [s.registry.outcome t]).added
          = (MergeStats.ofOutcome (s.registry.outcome t)).added := rfl
      rw [Shared.stats, heq] at hadded
      rw [Shared.stats, hset]
      simp only [List.map_append, List.map_cons, MergeStats.sum_append, MergeStats.sum_cons,
        Client.stats, MergeStats.ofOutcomes_append, MergeStats.added_add, hone] at hadded ⊢
      omega
    added_once := by
      intro type
      rw [List.countP_append, h.added_once, List.countP_singleton, Registry.contains_insert]
      simp only [Registry.outcome_eq_added_iff]
      by_cases htype : t.type = type
      · subst htype
        cases s.registry.contains t.type <;> simp
      · simp [htype] }

end Sound

theorem Run.sound (h : Run policy calls trace s) : Sound policy calls trace s := by
  induction h with
  | start => exact .start policy calls
  | step _ hs ih => exact ih.step hs

/-! ## A run to its end -/

/-- How many offers are still to be made. -/
def remaining (s : Shared) : Nat := (s.clients.flatMap (·.pending)).length

theorem Step.remaining_lt (hs : Step o s s') : s'.remaining < s.remaining := by
  obtain ⟨hclient⟩ := hs
  obtain ⟨before, after, heq, hset⟩ := exists_around hclient
  rw [remaining, remaining, hset, heq]
  simp only [List.flatMap_append, List.flatMap_cons, List.length_append, List.length_cons]
  omega

theorem exists_step (h : ¬ s.Done) : ∃ o s', Step o s s' := by
  simp only [Done, not_forall] at h
  obtain ⟨c, hc, hpending⟩ := h
  obtain ⟨i, hi⟩ := List.mem_iff_getElem?.mp hc
  obtain ⟨t, rest, heq⟩ := List.exists_cons_of_ne_nil hpending
  have hclient : s.clients[i]? = some ⟨t :: rest, c.answers⟩ := by rw [hi, ← heq]
  exact ⟨_, _, .offer hclient⟩

/-- A run can go on until every client has made all its offers. -/
theorem Run.exists_done (h : Run policy calls trace s) :
    ∃ later s', Run policy calls (trace ++ later) s' ∧ s'.Done := by
  induction hn : s.remaining using Nat.strong_induction_on generalizing trace s with
  | _ n ih =>
      by_cases hdone : s.Done
      · exact ⟨[], s, by rwa [List.append_nil], hdone⟩
      · obtain ⟨o, s₁, hs⟩ := exists_step hdone
        obtain ⟨later, s', hrun, hdone'⟩ := ih _ (hn ▸ hs.remaining_lt) (h.step hs) rfl
        exact ⟨o :: later, s', by rwa [List.append_assoc] at hrun, hdone'⟩

/-! ## Clients that keep apart -/

/-- Whether no type is offered by two clients. -/
def Apart (calls : List (List Update)) : Prop :=
  calls.Pairwise fun a b => ∀ t ∈ Client.plan a, ∀ u ∈ Client.plan b, t.type ≠ u.type

theorem Apart.eq (h : Apart calls) {i j : Nat} {a b : List Update} (ha : calls[i]? = some a)
    (hb : calls[j]? = some b) {t u : MessageTemplate} (ht : t ∈ Client.plan a)
    (hu : u ∈ Client.plan b) (htype : t.type = u.type) : i = j := by
  obtain ⟨hi, rfl⟩ := List.getElem?_eq_some_iff.mp ha
  obtain ⟨hj, rfl⟩ := List.getElem?_eq_some_iff.mp hb
  rcases Nat.lt_trichotomy i j with hij | hij | hij
  · exact absurd htype (List.pairwise_iff_getElem.mp h i j hi hj hij t ht u hu)
  · exact hij
  · exact absurd htype.symm (List.pairwise_iff_getElem.mp h j i hj hi hij u hu t ht)

/-- What offers the types of one client, of all that is offered. -/
theorem Apart.filter_plans (h : Apart calls) {cs : List Update} (hcs : cs ∈ calls)
    {t : MessageTemplate} (ht : t ∈ Client.plan cs) :
    (calls.flatMap Client.plan).filter (·.type = t.type)
      = (Client.plan cs).filter (·.type = t.type) := by
  obtain ⟨before, after, rfl⟩ := List.append_of_mem hcs
  obtain ⟨-, hafter, hbefore⟩ := List.pairwise_append.mp h
  have hnone {others : List (List Update)}
      (hothers : ∀ cs' ∈ others, ∀ u ∈ Client.plan cs', u.type ≠ t.type) :
      (others.flatMap Client.plan).filter (·.type = t.type) = [] := by
    rw [Registry.filter_type_eq_nil_iff]
    intro u hu
    obtain ⟨cs', hcs', hu⟩ := List.mem_flatMap.mp hu
    exact hothers cs' hcs' u hu
  rw [List.flatMap_append, List.flatMap_cons, List.filter_append, List.filter_append,
    hnone fun cs' hcs' u hu => hbefore cs' hcs' cs List.mem_cons_self u hu t ht,
    hnone fun cs' hcs' u hu => ((List.pairwise_cons.mp hafter).1 cs' hcs' t ht u hu).symm,
    List.nil_append, List.append_nil]

namespace Sound

/-- Every offer is one that a call of its client makes. -/
theorem mem_plan (h : Sound policy calls trace s) (ho : o ∈ trace) :
    ∃ cs, calls[o.client]? = some cs ∧ o.template ∈ Client.plan cs := by
  have hcs := List.getElem?_eq_getElem (h.known o ho)
  obtain ⟨c, -, hplan, -⟩ := h.client o.client _ hcs
  refine ⟨_, hcs, hplan ▸ List.mem_append_left _ ?_⟩
  exact List.mem_map_of_mem (mem_offersOf ho)

/-- When all offers have been made, those of a client are the ones that its calls make. -/
theorem client_of_done (h : Sound policy calls trace s) (hdone : s.Done) {i : Nat}
    {cs : List Update} (hcs : calls[i]? = some cs) :
    s.clients[i]? = some ⟨[], (offersOf trace i).map (·.outcome)⟩ ∧
      (offersOf trace i).map (·.template) = Client.plan cs := by
  obtain ⟨c, hc, hplan, hanswers⟩ := h.client i cs hcs
  have hpending := hdone c (List.mem_of_getElem? hc)
  rw [hpending, List.append_nil] at hplan
  rw [hc, ← hpending, ← hanswers]
  exact ⟨rfl, hplan⟩

/-- Of the types of a client, all offers are its own. -/
theorem filter_type_eq (h : Sound policy calls trace s) (hapart : Apart calls) {i : Nat}
    {cs : List Update} (hcs : calls[i]? = some cs) {t : MessageTemplate}
    (ht : t ∈ Client.plan cs) :
    (trace.map (·.template)).filter (·.type = t.type)
      = ((offersOf trace i).map (·.template)).filter (·.type = t.type) := by
  rw [List.filter_map, List.filter_map, offersOf, List.filter_filter]
  refine congrArg (List.map _) (List.filter_congr fun o ho => ?_)
  rw [Bool.eq_iff_iff, Bool.and_eq_true, decide_eq_true_eq]
  refine ⟨fun htype => ⟨htype, ?_⟩, And.left⟩
  obtain ⟨cs', hcs', hmem⟩ := h.mem_plan ho
  exact hapart.eq hcs' hcs hmem ht (of_decide_eq_true htype)

/-- The registry has of a type what the clients have offered of it. -/
theorem get?_eq (h : Sound policy calls trace s) (type : Text) :
    s.registry.get? type = policy.kept ((trace.map (·.template)).filter (·.type = type)) := by
  rw [h.registry_eq, Registry.get?_extend]
  rfl

end Sound

/-- What becomes of the offers of a client that keeps apart is what would have become of them if
the registry had been its own. -/
theorem Run.outcomes_eq (h : Run policy calls trace s) (hapart : Apart calls) (i : Nat) :
    (offersOf trace i).map (·.outcome)
      = (Registry.empty policy).outcomes ((offersOf trace i).map (·.template)) := by
  induction h with
  | start => rfl
  | @step trace s s' o h hs ih =>
      by_cases hi : o.client = i
      · subst hi
        have hsound := h.sound
        obtain ⟨cs, hcs, hmem⟩ := (hsound.step hs).mem_plan (List.mem_append_right trace
          (List.mem_singleton_self o))
        obtain ⟨hclient⟩ := hs
        rw [offersOf_concat_self, List.map_append, List.map_append, Registry.outcomes_append, ih]
        refine congrArg (_ ++ [·]) (Registry.outcome_congr ?_ ?_)
        · rw [hsound.registry_eq, Registry.policy_extend, Registry.policy_extend]
        · rw [hsound.get?_eq, hsound.filter_type_eq hapart hcs hmem, Registry.get?_extend]
          rfl
      · rw [offersOf_concat_of_ne trace hi]
        exact ih

/-- What is offered of a type, once all offers have been made, and in the order of the clients. -/
theorem Sound.filter_eq_of_done (h : Sound policy calls trace s) (hapart : Apart calls)
    (hdone : s.Done) (type : Text) :
    (trace.map (·.template)).filter (·.type = type)
      = (calls.flatMap Client.plan).filter (·.type = type) := by
  by_cases hoffered : ∃ t ∈ calls.flatMap Client.plan, t.type = type
  · -- One client offers the type, and what it has offered is all that its calls offer.
    obtain ⟨t, ht, rfl⟩ := hoffered
    obtain ⟨cs, hmem, ht⟩ := List.mem_flatMap.mp ht
    obtain ⟨i, hcs⟩ := List.mem_iff_getElem?.mp hmem
    rw [h.filter_type_eq hapart hcs ht, (h.client_of_done hdone hcs).2,
      hapart.filter_plans hmem ht]
  · -- Nobody offers the type, and so nobody has.
    have hnone : ∀ t ∈ calls.flatMap Client.plan, t.type ≠ type :=
      fun t ht htype => hoffered ⟨t, ht, htype⟩
    have htrace : ∀ t ∈ trace.map (·.template), t.type ≠ type := by
      intro t ht
      obtain ⟨o, ho, rfl⟩ := List.mem_map.mp ht
      obtain ⟨cs, hcs, hmem⟩ := h.mem_plan ho
      exact hnone _ (List.mem_flatMap.mpr ⟨cs, List.mem_of_getElem? hcs, hmem⟩)
    rw [Registry.filter_type_eq_nil_iff.mpr htrace, Registry.filter_type_eq_nil_iff.mpr hnone]

theorem Run.registry_eq (h : Run policy calls trace s) (hapart : Apart calls) (hdone : s.Done) :
    s.registry = (Registry.empty policy).extend (calls.flatMap Client.plan) := by
  have hsound := h.sound
  have hempty : (Registry.empty policy).templates.Ordered := List.Pairwise.nil
  refine Registry.ext_of_get? ?_ hsound.ordered (Registry.ordered_extend hempty _) fun type => ?_
  · rw [hsound.registry_eq, Registry.policy_extend, Registry.policy_extend]
  · rw [hsound.get?_eq, hsound.filter_eq_of_done hapart hdone, Registry.get?_extend]
    rfl

theorem Run.clients_eq (h : Run policy calls trace s) (hapart : Apart calls) (hdone : s.Done) :
    s.clients
      = calls.map fun cs => ⟨[], (Registry.empty policy).outcomes (Client.plan cs)⟩ := by
  have hsound := h.sound
  refine List.ext_getElem? fun i => ?_
  rw [List.getElem?_map]
  cases hcs : calls[i]? with
  | none =>
      rw [List.getElem?_eq_none_iff] at hcs
      exact List.getElem?_eq_none (hsound.length_eq ▸ hcs)
  | some cs =>
      obtain ⟨hc, hplan⟩ := hsound.client_of_done hdone hcs
      rw [hc, h.outcomes_eq hapart, hplan]
      rfl

/-- How clients of one registry fare, however their offers come between one another. -/
structure Tallies (policy : DuplicatePolicy) (calls : List (List Update)) (trace : List Offer)
    (s : Shared) : Prop where
  /-- Together the clients count as added what has been registered. -/
  added_eq : s.stats.added = s.registry.types.length
  /-- One offer of a type that is registered has been counted as added. -/
  added_once : ∀ type, trace.countP (fun o => o.outcome = .added ∧ o.template.type = type)
    = if type ∈ s.registry.types then 1 else 0
  /-- A client counts what it has offered, and this is what its calls bring, up to what they have
  still to offer. -/
  client : ∀ i cs c, calls[i]? = some cs → s.clients[i]? = some c →
    c.stats = .ofOutcomes ((offersOf trace i).map (·.outcome)) ∧
      c.stats.total = (offersOf trace i).length ∧
      (offersOf trace i).map (·.template) ++ c.pending = Client.plan cs
  /-- Of a type the policy keeps the last or the first template in the order of all offers. -/
  kept : ∀ type,
    s.registry.get? type = policy.kept ((trace.map (·.template)).filter (·.type = type))

theorem Run.tallies (h : Run policy calls trace s) : Tallies policy calls trace s := by
  have hsound := h.sound
  refine ⟨hsound.added_eq.trans (List.length_map _).symm, fun type => ?_,
    fun i cs c hcs hc => ?_, hsound.get?_eq⟩
  · rw [hsound.added_once]
    exact if_congr Registry.mem_types_iff.symm rfl rfl
  · obtain ⟨c', hc', hplan, hanswers⟩ := hsound.client i cs hcs
    obtain rfl := Option.some.inj (hc'.symm.trans hc)
    have hstats : c'.stats = .ofOutcomes ((offersOf trace i).map (·.outcome)) :=
      congrArg MergeStats.ofOutcomes hanswers
    refine ⟨hstats, ?_, hplan⟩
    rw [hstats, MergeStats.total_ofOutcomes, List.length_map]

/-- Clients that share a registry lose nothing, whatever the order in which their offers come; and
clients that offer different types come to the same end in every order. -/
theorem runs_tally (policy : DuplicatePolicy) (calls : List (List Update)) :
    (∀ trace s, Run policy calls trace s →
      Tallies policy calls trace s ∧
        ∃ later s', Run policy calls (trace ++ later) s' ∧ s'.Done) ∧
    (Apart calls → ∀ trace s trace' s', Run policy calls trace s → s.Done →
      Run policy calls trace' s' → s'.Done →
      s = s' ∧ s.registry = (Registry.empty policy).extend (calls.flatMap Client.plan) ∧
        s.clients.map (·.stats)
          = calls.map fun cs => (Registry.empty policy).extendStats (Client.plan cs)) := by
  refine ⟨fun trace s h => ⟨h.tallies, h.exists_done⟩, ?_⟩
  intro hapart trace s trace' s' h hdone h' hdone'
  have hregistry := h.registry_eq hapart hdone
  have hclients := h.clients_eq hapart hdone
  refine ⟨?_, hregistry, ?_⟩
  · calc s = ⟨s.registry, s.clients⟩ := rfl
      _ = ⟨s'.registry, s'.clients⟩ := by
        rw [hregistry, hclients, h'.registry_eq hapart hdone', h'.clients_eq hapart hdone']
  · rw [hclients, List.map_map]
    exact List.map_congr_left fun cs _ => (Registry.extendStats_eq_ofOutcomes _ _).symm

/-- The offers of a batch come in between those of a load. -/
theorem runs_tally_interleaved :
    let a : MessageTemplate := ⟨"T".toList, "a".toList, none⟩
    let b : MessageTemplate := ⟨"T".toList, "b".toList, none⟩
    let c : MessageTemplate := ⟨"U".toList, "c".toList, some "s".toList⟩
    let d : MessageTemplate := ⟨"V".toList, "d".toList, some "s".toList⟩
    let load : Update := .load ⟨fun _ => ⟨0, .hangs⟩, .lines, none⟩ "tips/".toList
      [⟨"s".toList, none⟩] [.report 0 (.finished (.ok "U|c\nV|d".toList))]
    let calls : List (List Update) := [[.extend [a, b]], [load]]
    let trace : List Offer := [⟨0, a, .added⟩, ⟨1, c, .added⟩, ⟨0, b, .rejected b⟩, ⟨1, d, .added⟩]
    let s : Shared := ⟨⟨.reject, [("T".toList, a), ("U".toList, c), ("V".toList, d)]⟩,
      [⟨[], [.added, .rejected b]⟩, ⟨[], [.added, .added]⟩]⟩
    Run .reject calls trace s ∧ s.Done ∧ Apart calls ∧
      s.registry = (Registry.empty .reject).extend [a, b, c, d] ∧
      s.stats.added = 3 ∧
      trace.countP (fun o => o.outcome = .added ∧ o.template.type = "T".toList) = 1 := by
  intro a b c d load calls trace s
  have hplans : calls.map Client.plan = [[a, b], [c, d]] := by decide
  have hstart : start .reject calls = ⟨.empty .reject, [⟨[a, b], []⟩, ⟨[c, d], []⟩]⟩ := by
    change Shared.mk _ ((calls.map Client.plan).map fun plan => ⟨plan, []⟩) = _
    rw [hplans]
    rfl
  have h₀ : Run .reject calls [] ⟨.empty .reject, [⟨[a, b], []⟩, ⟨[c, d], []⟩]⟩ :=
    hstart ▸ .start
  have h₁ := h₀.step (.offer (i := 0) rfl)
  have h₂ := h₁.step (.offer (i := 1) rfl)
  have h₃ := h₂.step (.offer (i := 0) rfl)
  have h₄ := h₃.step (.offer (i := 1) rfl)
  have hrun : Run .reject calls trace s := h₄
  have hdone : s.Done := by
    unfold Done
    decide
  have hapart : Apart calls := by
    have : (calls.map Client.plan).Pairwise fun p q => ∀ t ∈ p, ∀ u ∈ q, t.type ≠ u.type := by
      rw [hplans]
      decide
    exact List.pairwise_map.mp this
  obtain ⟨-, hregistry, -⟩ := (runs_tally .reject calls).2 hapart _ _ _ _ hrun hdone hrun hdone
  have htallies := ((runs_tally .reject calls).1 _ _ hrun).1
  exact ⟨hrun, hdone, hapart, hregistry, htallies.added_eq, htallies.added_once _⟩

end Shared

end Explainer
