import Explainer.Load.Settle
import Mathlib.Data.List.Basic
import Mathlib.Data.List.Nodup

/-!
# A group of tasks under every schedule

While a group waits, its tasks end in any order, each sends one report when
it does, the reports are received in any order, and at some time the deadline
passes. `Group` is the state of all this together and `Step` is one event of
it; a run is any sequence of events from the start, and its trace is the list
of signals that the wait received. Of the channel no more is assumed than
that a report is received at most once, and that a wait does not come back
empty-handed while a report is there to be received.

Two facts carry everything. What the wait knows of a task depends on the fate
of the task and on whether its report is in the trace, and on nothing else
(`Sound.slots_eq`); so the order in which reports arrive leaves no mark. And
the tasks that have not settled are exactly those that still run or whose
report is still on its way (`Sound.mem_unsettled`); so the count of pending
tasks never runs out early, no slot is written twice, and a wait never finds
all its tasks gone and some of them unaccounted for.

The loop of the wait is `receive`. On the trace of a run it goes through the
states of that run (`Run.receive_run`), and once the wait is over its answer
can be read off the fates and the trace (`Run.join_eq`).
-/

namespace Explainer.Load

variable {α : Type}

/-- How a wait has come to its end. -/
inductive Exit where
  /-- Every task has settled. -/
  | complete
  /-- The deadline has passed. -/
  | deadline
  /-- No task is left that could report. -/
  | disconnected
deriving DecidableEq, Repr

/-- A group whose tasks have been started. -/
structure Group (α : Type) where
  /-- The tasks that have not ended. -/
  running : List Nat
  /-- The reports that have been sent and not received. -/
  channel : List (Nat × Settled α)
  /-- Whether the deadline has passed. -/
  expired : Bool
  slots : Slots α
  pending : Nat
  exit : Option Exit

namespace Group

/-- The group when its wait begins. -/
def start (fates : List (Fate α)) : Group α where
  running := (List.range fates.length).filter fun i => fates[i]?.any Fate.isStarted
  channel := []
  expired := false
  slots := .start (fates.map Fate.isStarted)
  pending := fates.length - (fates.map Fate.isStarted).count false
  exit := none

/-- What the wait will have found when it has received the given signals and nothing else. -/
def outlook (g : Group α) (rest : List (Signal α)) : Slots α × Bool :=
  match g.exit with
  | none => receive g.slots g.pending rest
  | some e => (g.slots, e == .deadline)

theorem outlook_of_waiting {g : Group α} (h : g.exit = none) (rest : List (Signal α)) :
    g.outlook rest = receive g.slots g.pending rest := by
  simp only [outlook, h]

theorem outlook_of_exit {g : Group α} {e : Exit} (h : g.exit = some e)
    (rest : List (Signal α)) : g.outlook rest = (g.slots, e == .deadline) := by
  simp only [outlook, h]

/-- How many more steps a group can take, at most. -/
def work (g : Group α) : Nat :=
  2 * g.running.length + g.channel.length + (if g.expired then 0 else 1)
    + (if g.exit = none then 1 else 0)

/-- One event in the life of a group, with the signal that the wait receives if it receives one.
`limited` says whether there is a deadline. -/
inductive Step (fates : List (Fate α)) (limited : Bool) :
    Option (Signal α) → Group α → Group α → Prop
  /-- A task ends, and its report is on its way. -/
  | ends {g : Group α} {i : Nat} {s : Settled α} (hrun : i ∈ g.running)
      (hfate : fates[i]?.bind Fate.report? = some s) :
      Step fates limited none g
        { g with running := g.running.erase i, channel := g.channel ++ [(i, s)] }
  /-- The deadline passes. -/
  | expires {g : Group α} (hlim : limited = true) (hexp : g.expired = false) :
      Step fates limited none g { g with expired := true }
  /-- One of the reports that are on their way is received. -/
  | receives {g : Group α} {i : Nat} {s : Settled α} {before after : List (Nat × Settled α)}
      (hwait : g.exit = none) (hpend : g.pending ≠ 0)
      (hchan : g.channel = before ++ (i, s) :: after) :
      Step fates limited (some (.report i s)) g
        { g with channel := before ++ after, slots := g.slots.set i (some s),
                 pending := g.pending - 1 }
  /-- After the deadline, with no report on its way, the wait is given up. -/
  | givesUp {g : Group α} (hwait : g.exit = none) (hpend : g.pending ≠ 0)
      (hchan : g.channel = []) (hexp : g.expired = true) :
      Step fates limited (some .deadline) g { g with exit := some .deadline }
  /-- Every task has settled. -/
  | completes {g : Group α} (hwait : g.exit = none) (hpend : g.pending = 0) :
      Step fates limited none g { g with exit := some .complete }
  /-- Every task that could report has ended, and no report is on its way. -/
  | disconnects {g : Group α} (hwait : g.exit = none) (hpend : g.pending ≠ 0)
      (hchan : g.channel = []) (hrun : g.running = []) :
      Step fates limited none g { g with exit := some .disconnected }

/-- A run of a group from its start, with the signals that the wait has received. -/
inductive Run (fates : List (Fate α)) (limited : Bool) : List (Signal α) → Group α → Prop
  | start : Run fates limited [] (.start fates)
  | step {trace : List (Signal α)} {g g' : Group α} {signal : Option (Signal α)}
      (h : Run fates limited trace g) (hs : Step fates limited signal g g') :
      Run fates limited (trace ++ signal.toList) g'

end Group

/-- Whether a report of the task is among the signals. -/
def reported (signals : List (Signal α)) (i : Nat) : Bool :=
  signals.any fun
    | .report j _ => j == i
    | .deadline => false

namespace Fate

/-- What a group knows of a task, given whether the report of the task has been received. -/
def slot : Fate α → Bool → Option (Settled α)
  | refused _, _ => some .lost
  | f, true => f.report?
  | _, false => none

/-- How a task ends for its group, given whether its report is received. -/
def settled (f : Fate α) (received : Bool) : Settled α := (f.slot received).getD .timedOut

theorem slot_true_of_report {f : Fate α} {s : Settled α} (h : f.report? = some s) :
    f.slot true = some s := by
  cases f with
  | refused reason => cases h
  | fails | returns v | hangs => exact h

theorem eq_hangs_of_slot {f : Fate α} {received : Bool} (h : f.slot received = none)
    (hrep : f.report? = none) : f = hangs := by
  cases f with
  | refused reason => cases h
  | fails | returns v => cases hrep
  | hangs => rfl

/-- A task that reports nothing is known from the beginning, or never. -/
theorem slot_eq_of_silent {f : Fate α} (h : f.report? = none) (received : Bool) :
    f.slot received = f.slot true := by
  cases f with
  | refused reason => rfl
  | fails | returns v => cases h
  | hangs => cases received <;> rfl

theorem eq_hangs_of_slot_true {f : Fate α} (h : f.slot true = none) : f = hangs := by
  cases f with
  | refused reason | fails | returns v => cases h
  | hangs => rfl

end Fate

/-! ## Signals and slots -/

@[simp] theorem reported_nil (i : Nat) : reported ([] : List (Signal α)) i = false := rfl

@[simp] theorem reported_append (a b : List (Signal α)) (i : Nat) :
    reported (a ++ b) i = (reported a i || reported b i) :=
  List.any_append

@[simp] theorem reported_report (i j : Nat) (s : Settled α) :
    reported [.report i s] j = (i == j) :=
  Bool.or_false _

@[simp] theorem reported_deadline (i : Nat) :
    reported [(.deadline : Signal α)] i = false := rfl

theorem Slots.pending_start (started : List Bool) :
    (Slots.start started : Slots α).pending = started.length - started.count false := by
  induction started with
  | nil => rfl
  | cons ok rest ih =>
      have hle := List.count_le_length (a := false) (l := rest)
      simp only [Slots.pending, Slots.start] at ih
      cases ok <;> simp [Slots.pending, Slots.start, ih]
      omega

/-- Filling an open slot leaves one task less to wait for. -/
theorem Slots.pending_set {slots : Slots α} {i : Nat} {s : Settled α}
    (h : slots[i]? = some none) :
    Slots.pending (slots.set i (some s)) = slots.pending - 1 := by
  obtain ⟨hlt, hget⟩ := List.getElem?_eq_some_iff.mp h
  rw [Slots.pending, List.countP_set hlt, hget]
  simp [Slots.pending]

theorem Slots.pending_pos {slots : Slots α} {i : Nat} (h : slots[i]? = some none) :
    0 < slots.pending :=
  List.countP_pos_iff.mpr ⟨none, List.mem_of_getElem? h, rfl⟩

/-! ## The invariant of a run -/

/-- What holds of a group at any point of a run. -/
structure Sound (fates : List (Fate α)) (limited : Bool) (trace : List (Signal α))
    (g : Group α) : Prop where
  /-- What is known of a task depends on its fate and on whether it has been heard of. -/
  slots_eq : g.slots = fates.mapIdx fun i f => f.slot (reported trace i)
  /-- The counter counts the tasks that have not settled. -/
  pending_eq : g.pending = g.slots.pending
  /-- The tasks that have not settled are those that run or whose report is on its way. -/
  mem_unsettled : ∀ i, i ∈ g.running ++ g.channel.map Prod.fst ↔ g.slots[i]? = some none
  /-- A task reports once. -/
  nodup : (g.running ++ g.channel.map Prod.fst).Nodup
  /-- A task reports how it ended. -/
  report : ∀ i s, (i, s) ∈ g.channel → fates[i]?.bind Fate.report? = some s
  /-- Only tasks that end are heard of. -/
  heard : ∀ i, reported trace i = true → fates[i]?.bind Fate.report? ≠ none
  limited_of_expired : g.expired = true → limited = true
  complete : g.exit = some .complete → g.pending = 0
  deadline : g.exit = some .deadline → limited = true ∧ Signal.deadline ∈ trace
  connected : g.exit ≠ some .disconnected

namespace Sound

variable {fates : List (Fate α)} {limited : Bool} {trace : List (Signal α)}
  {g g' : Group α} {signal : Option (Signal α)}

theorem start (fates : List (Fate α)) (limited : Bool) :
    Sound fates limited [] (.start fates) where
  slots_eq := by
    refine List.ext_getElem? fun i => ?_
    simp only [Group.start, Slots.start, List.getElem?_map, List.getElem?_mapIdx, reported_nil]
    cases fates[i]? with
    | none => rfl
    | some f => cases f <;> rfl
  pending_eq := by
    simp only [Group.start, Slots.pending_start, List.length_map]
  mem_unsettled i := by
    simp only [Group.start, Slots.start, List.map_nil, List.append_nil, List.mem_filter,
      List.mem_range, List.getElem?_map]
    cases hf : fates[i]? with
    | none => simp
    | some f =>
        have hlt := (List.getElem?_eq_some_iff.mp hf).1
        cases hs : f.isStarted <;> simp [hlt, hs]
  nodup := by
    simpa [Group.start] using List.nodup_range.filter _
  report i s h := by cases h
  heard i h := by cases h
  limited_of_expired h := by cases h
  complete h := by cases h
  deadline h := by cases h
  connected h := by cases h

/-- A report that is on its way has an open slot waiting for it. -/
theorem unsettled_of_mem_channel (h : Sound fates limited trace g) {i : Nat} {s : Settled α}
    (hmem : (i, s) ∈ g.channel) : g.slots[i]? = some none :=
  (h.mem_unsettled i).mp (List.mem_append_right _ (List.mem_map.mpr ⟨(i, s), hmem, rfl⟩))

/-- The fate behind a slot. -/
theorem slot_of_fate (h : Sound fates limited trace g) {i : Nat} {f : Fate α}
    (hf : fates[i]? = some f) : g.slots[i]? = some (f.slot (reported trace i)) := by
  rw [h.slots_eq, List.getElem?_mapIdx, hf, Option.map_some]

theorem fate_of_slot (h : Sound fates limited trace g) {i : Nat} {slot : Option (Settled α)}
    (hs : g.slots[i]? = some slot) :
    ∃ f, fates[i]? = some f ∧ f.slot (reported trace i) = slot := by
  rw [h.slots_eq, List.getElem?_mapIdx] at hs
  exact Option.map_eq_some_iff.mp hs

/-- While a task has not settled, it runs or its report is on its way. -/
theorem pending_eq_zero (h : Sound fates limited trace g) (hrun : g.running = [])
    (hchan : g.channel = []) : g.pending = 0 := by
  rw [h.pending_eq]
  refine List.countP_eq_zero.mpr fun slot hslot => ?_
  obtain ⟨i, hi⟩ := List.mem_iff_getElem?.mp hslot
  cases slot with
  | some s => simp
  | none =>
      have hmem := (h.mem_unsettled i).mpr hi
      rw [hrun, hchan] at hmem
      cases hmem

/-! The two steps that touch the channel are the only ones that move a task
from one of the lists in `mem_unsettled` to the other, or out of both. -/

theorem ends (h : Sound fates limited trace g) {i : Nat} {s : Settled α} (hrun : i ∈ g.running)
    (hfate : fates[i]?.bind Fate.report? = some s) :
    Sound fates limited trace
      { g with running := g.running.erase i, channel := g.channel ++ [(i, s)] } := by
  have hperm : (g.running.erase i ++ (g.channel ++ [(i, s)]).map Prod.fst).Perm
      (g.running ++ g.channel.map Prod.fst) := by
    rw [List.map_append, ← List.append_assoc]
    refine List.perm_append_comm.trans ?_
    rw [← List.append_assoc]
    exact (List.perm_cons_erase hrun).symm.append_right _
  exact {
    h with
    mem_unsettled := fun j => hperm.mem_iff.trans (h.mem_unsettled j)
    nodup := hperm.nodup_iff.mpr h.nodup
    report := by
      intro j t hmem
      rcases List.mem_append.mp hmem with hmem | hmem
      · exact h.report j t hmem
      · obtain ⟨rfl, rfl⟩ := Prod.mk.injEq .. ▸ List.mem_singleton.mp hmem
        exact hfate }

theorem receives (h : Sound fates limited trace g) {i : Nat} {s : Settled α}
    {before after : List (Nat × Settled α)} (hwait : g.exit = none)
    (hchan : g.channel = before ++ (i, s) :: after) :
    Sound fates limited (trace ++ [.report i s])
      { g with channel := before ++ after, slots := g.slots.set i (some s),
               pending := g.pending - 1 } := by
  have hmem : (i, s) ∈ g.channel := by simp [hchan]
  have hopen := h.unsettled_of_mem_channel hmem
  have hlt := (List.getElem?_eq_some_iff.mp hopen).1
  have hperm : (g.running ++ g.channel.map Prod.fst).Perm
      (i :: (g.running ++ (before ++ after).map Prod.fst)) := by
    rw [hchan, List.map_append, List.map_append, List.map_cons, ← List.append_assoc,
      ← List.append_assoc]
    exact List.perm_middle
  obtain ⟨hfresh, hnodup⟩ := List.nodup_cons.mp (hperm.nodup_iff.mp h.nodup)
  have hslots : g.slots.set i (some s)
      = fates.mapIdx fun j f => f.slot (reported (trace ++ [.report i s]) j) := by
    refine List.ext_getElem? fun j => ?_
    rw [List.getElem?_set, List.getElem?_mapIdx]
    by_cases hij : i = j
    · subst hij
      obtain ⟨f, hf, hrep⟩ := Option.bind_eq_some_iff.mp (h.report i s hmem)
      simp [hlt, hf, Fate.slot_true_of_report hrep]
    · have hne : (i == j) = false := beq_eq_false_iff_ne.mpr hij
      rw [if_neg hij, h.slots_eq, List.getElem?_mapIdx]
      simp only [reported_append, reported_report, hne, Bool.or_false]
  exact {
    slots_eq := hslots
    pending_eq := by rw [Slots.pending_set hopen, h.pending_eq]
    mem_unsettled := by
      intro j
      have hj : j ∈ i :: (g.running ++ (before ++ after).map Prod.fst) ↔
          g.slots[j]? = some none := hperm.mem_iff.symm.trans (h.mem_unsettled j)
      rw [List.getElem?_set]
      by_cases hij : i = j
      · subst hij
        exact iff_of_false hfresh (by simp [hlt])
      · rw [if_neg hij, ← hj, List.mem_cons, or_iff_right (Ne.symm hij)]
    nodup := hnodup
    report := by
      intro j t hmem'
      refine h.report j t (hchan ▸ ?_)
      rcases List.mem_append.mp hmem' with hmem' | hmem'
      · exact List.mem_append_left _ hmem'
      · exact List.mem_append_right _ (List.mem_cons_of_mem _ hmem')
    heard := by
      intro j hj
      rw [reported_append, reported_report, Bool.or_eq_true, beq_iff_eq] at hj
      rcases hj with hj | rfl
      · exact h.heard j hj
      · rw [h.report i s hmem]
        exact Option.some_ne_none s
    limited_of_expired := h.limited_of_expired
    complete := fun he => by rw [hwait] at he; cases he
    deadline := fun he => by rw [hwait] at he; cases he
    connected := h.connected }

/-- Every step keeps the invariant. -/
theorem step (h : Sound fates limited trace g) (hs : Group.Step fates limited signal g g') :
    Sound fates limited (trace ++ signal.toList) g' := by
  cases hs with
  | ends hrun hfate =>
      rw [Option.toList_none, List.append_nil]
      exact h.ends hrun hfate
  | expires hlim hexp =>
      rw [Option.toList_none, List.append_nil]
      exact { h with limited_of_expired := fun _ => hlim }
  | receives hwait hpend hchan => exact h.receives hwait hchan
  | givesUp hwait hpend hchan hexp =>
      have hslots : g.slots
          = fates.mapIdx fun i f => f.slot (reported (trace ++ [.deadline]) i) := by
        simpa using h.slots_eq
      exact {
        h with
        slots_eq := hslots
        heard := fun i hi => h.heard i (by simpa using hi)
        complete := fun he => by cases he
        deadline := fun _ =>
          ⟨h.limited_of_expired hexp, List.mem_append_right _ (List.mem_singleton_self _)⟩
        connected := fun he => by cases he }
  | completes hwait hpend =>
      rw [Option.toList_none, List.append_nil]
      exact {
        h with
        complete := fun _ => hpend
        deadline := fun he => by cases he
        connected := fun he => by cases he }
  | disconnects hwait hpend hchan hrun => exact absurd (h.pending_eq_zero hrun hchan) hpend

end Sound

namespace Group

variable {fates : List (Fate α)} {limited : Bool} {trace : List (Signal α)}
  {g g' : Group α} {signal : Option (Signal α)}

theorem Run.sound (h : Run fates limited trace g) : Sound fates limited trace g := by
  induction h with
  | start => exact .start fates limited
  | step _ hs ih => exact ih.step hs

/-! ## The loop of the wait -/

/-- A step changes nothing in what the wait will find, once the signal of the step is counted
among those to come. -/
theorem Step.outlook_eq (hs : Step fates limited signal g g') (h : Sound fates limited trace g)
    (rest : List (Signal α)) : g.outlook (signal.toList ++ rest) = g'.outlook rest := by
  cases hs with
  | ends | expires => rfl
  | receives hwait hpend hchan | givesUp hwait hpend hchan hexp =>
      simp [outlook, hwait, receive, hpend]
  | completes hwait hpend => cases rest <;> simp [outlook, hwait, receive, hpend]
  | disconnects hwait hpend hchan hrun => exact absurd (h.pending_eq_zero hrun hchan) hpend

theorem Run.outlook_eq (h : Run fates limited trace g) :
    ∀ rest, (Group.start fates).outlook (trace ++ rest) = g.outlook rest := by
  induction h with
  | start => intro rest; rfl
  | step hr hs ih =>
      intro rest
      rw [List.append_assoc, ih, hs.outlook_eq hr.sound]

/-- On the trace of a run the loop goes through the states of that run. -/
theorem Run.receive_run (h : Run fates limited trace g) (hwait : g.exit = none)
    (rest : List (Signal α)) :
    receive (Group.start fates).slots (Group.start fates).pending (trace ++ rest)
      = receive g.slots g.pending rest := by
  rw [← outlook_of_waiting (g := Group.start fates) rfl, h.outlook_eq, outlook_of_waiting hwait]

/-- Once the wait is over, its answer can be read off the fates and the trace. Whatever is
reported later is not part of it. -/
theorem Run.join_eq (h : Run fates limited trace g) (hexit : g.exit ≠ none)
    (late : List (Signal α)) :
    join (fates.map Fate.isStarted) (trace ++ late)
      = fates.mapIdx fun i f => f.settled (reported trace i) := by
  obtain ⟨e, he⟩ := Option.ne_none_iff_exists'.mp hexit
  have hs := h.sound
  have hrecv := h.outlook_eq late
  rw [outlook_of_waiting rfl, outlook_of_exit he] at hrecv
  have hjoin : join (fates.map Fate.isStarted) (trace ++ late)
      = settleRest g.slots (e == .deadline) := by
    change receive (.start (fates.map Fate.isStarted))
      (fates.length - (fates.map Fate.isStarted).count false) (trace ++ late) = _ at hrecv
    simp only [join, List.length_map, hrecv]
  -- Slots that are still open are filled by the deadline, the only exit that leaves any.
  have hfill : ∀ slot ∈ g.slots,
      slot.getD (if (e == .deadline) = true then .timedOut else .lost)
        = slot.getD Settled.timedOut := by
    intro slot hslot
    cases e with
    | deadline => rfl
    | disconnected => exact absurd he hs.connected
    | complete =>
        have hzero := hs.complete he
        rw [hs.pending_eq] at hzero
        cases slot with
        | some s => rfl
        | none => exact absurd rfl (List.countP_eq_zero.mp hzero none hslot)
  rw [hjoin, settleRest, List.map_congr_left hfill, hs.slots_eq, List.mapIdx_eq_zipIdx_map,
    List.mapIdx_eq_zipIdx_map, List.map_map]
  rfl

/-! ## Every run comes to its end -/

theorem Step.work_lt (hs : Step fates limited signal g g') : g'.work < g.work := by
  cases hs with
  | ends hrun hfate =>
      have := List.length_erase_of_mem hrun
      have := List.length_pos_of_mem hrun
      simp only [work, List.length_append, List.length_singleton]
      omega
  | expires hlim hexp => simp [work, hexp]
  | receives hwait hpend hchan =>
      simp only [work, hchan, List.length_append, List.length_cons]
      omega
  | givesUp hwait | completes hwait | disconnects hwait => simp [work, hwait]

/-- A wait that is not over can go on, unless it waits without a deadline for a task that
hangs. -/
theorem Run.exists_step (h : Run fates limited trace g) (hwait : g.exit = none) :
    (∃ signal g', Step fates limited signal g g') ∨ limited = false ∧ .hangs ∈ fates := by
  have hs := h.sound
  by_cases hpend : g.pending = 0
  · exact .inl ⟨_, _, .completes hwait hpend⟩
  cases hchan : g.channel with
  | cons report rest =>
      have hfirst : g.channel = [] ++ report :: rest := hchan
      exact .inl ⟨_, _, .receives hwait hpend hfirst⟩
  | nil =>
      cases hlim : limited with
      | true =>
          cases hexp : g.expired with
          | true => exact .inl ⟨_, _, .givesUp hwait hpend hchan hexp⟩
          | false => exact .inl ⟨_, _, .expires rfl hexp⟩
      | false =>
          cases hrun : g.running with
          | nil => exact absurd (hs.pending_eq_zero hrun hchan) hpend
          | cons i running =>
              have hopen := (hs.mem_unsettled i).mp (by simp [hrun])
              obtain ⟨f, hf, hslot⟩ := hs.fate_of_slot hopen
              cases hrep : f.report? with
              | some s =>
                  exact .inl ⟨_, _, .ends (i := i) (by simp [hrun]) (by rw [hf]; exact hrep)⟩
              | none =>
                  have hhangs := Fate.eq_hangs_of_slot hslot hrep
                  exact .inr ⟨rfl, hhangs ▸ List.mem_of_getElem? hf⟩

/-- No run goes on for ever. -/
theorem Step.wellFounded (fates : List (Fate α)) (limited : Bool) :
    WellFounded fun g' g : Group α => ∃ signal, Step fates limited signal g g' :=
  Subrelation.wf (fun ⟨_, hs⟩ => hs.work_lt) (measure work).wf

end Group

end Explainer.Load
