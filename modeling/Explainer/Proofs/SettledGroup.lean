import Explainer.Proofs.GroupRun
import Mathlib.Data.List.Basic

/-!
# What a group answers

Every task is settled, each by what it did itself. A value is the value of
the task in whose place it stands. A task is lost only if it could not be
started or failed, whatever became of the others, and timed out only if there
is a deadline that passed before its report was received. The counter of
pending tasks is exact all the while, and a wait comes to its end, unless
there is no deadline and it waits for a task that hangs. Where no deadline
interferes and no task hangs, the fates alone decide the answer, so that it is
the same for every order in which reports arrive.

`Run.settles` says this of every run.
-/

namespace Explainer.Load

variable {α : Type}

/-! ## Labels -/

theorem isLabel_eq_false_iff {label : Text} : isLabel label = false ↔ '\x00' ∈ label := by
  rw [isLabel, Bool.not_eq_false', List.contains_iff_mem]

/-- One label that cannot be one ends the group. -/
theorem joinLabelled?_eq_none_iff {starts : List Start} {signals : List (Signal α)} :
    joinLabelled? starts signals = none ↔ ∃ s ∈ starts, '\x00' ∈ s.label := by
  rw [joinLabelled?]
  split
  · next hall =>
      refine iff_of_false (by simp) fun ⟨s, hs, hnul⟩ => ?_
      have := List.all_eq_true.mp hall s hs
      rw [isLabel_eq_false_iff.mpr hnul] at this
      cases this
  · next hall =>
      rw [Bool.not_eq_true, List.all_eq_false] at hall
      obtain ⟨s, hs, hnot⟩ := hall
      exact iff_of_true rfl ⟨s, hs, isLabel_eq_false_iff.mp (Bool.not_eq_true _ ▸ hnot)⟩

/-- How the tasks of a group are started. -/
def starts (tasks : List (Text × Fate α)) : List Start :=
  tasks.map fun (label, fate) => .of label fate

theorem joinLabelled?_starts {tasks : List (Text × Fate α)}
    (hlabels : ∀ task ∈ tasks, '\x00' ∉ task.1) (signals : List (Signal α)) :
    joinLabelled? (starts tasks) signals
      = some (join ((tasks.map Prod.snd).map Fate.isStarted) signals) := by
  have hall : ((starts tasks).all fun s => isLabel s.label) = true := by
    rw [starts, List.all_map, List.all_eq_true]
    intro task htask
    rw [← Bool.not_eq_false]
    exact fun h => hlabels task htask (isLabel_eq_false_iff.mp h)
  rw [joinLabelled?, if_pos hall, starts, List.map_map, List.map_map]
  rfl

/-! ## The contract of a group -/

namespace Fate

theorem eq_returns_of_settled {f : Fate α} {received : Bool} {v : α}
    (h : f.settled received = .finished v) : f = returns v := by
  cases f <;> cases received <;> cases h
  rfl

theorem slot_of_settled_timedOut {f : Fate α} (h : f.settled false = .timedOut) :
    f.slot false = none := by
  cases f with
  | refused reason => cases h
  | fails | returns v | hangs => rfl

theorem report?_of_settled_timedOut {f : Fate α} (h : f.settled true = .timedOut) :
    f.report? = none := by
  cases f with
  | refused reason | fails | returns v => cases h
  | hangs => rfl

theorem settled_eq_of_slot {f : Fate α} {received : Bool} {s : Settled α}
    (h : f.slot received = some s) : f.settled received = f.settled true := by
  cases received with
  | true => rfl
  | false =>
      cases f with
      | refused reason => rfl
      | fails | returns v | hangs => cases h

theorem eq_of_settled_lost {f : Fate α} {received : Bool} (h : f.settled received = .lost) :
    f = fails ∨ ∃ reason, f = refused reason := by
  cases f with
  | refused reason => exact .inr ⟨reason, rfl⟩
  | fails => exact .inl rfl
  | returns v | hangs => cases received <;> cases h

end Fate

/-- What the answer of a group says about its tasks. -/
structure Answers (fates : List (Fate α)) (limited : Bool) (trace : List (Signal α))
    (settled : List (Settled α)) : Prop where
  /-- There is one entry for each task, in the order of the tasks. -/
  length_eq : settled.length = fates.length
  /-- A value is that of the task itself. -/
  finished : ∀ (i : Nat) (v : α), settled[i]? = some (.finished v) →
    fates[i]? = some (.returns v)
  /-- A lost task could not be started, or failed. -/
  lost : ∀ i : Nat, settled[i]? = some .lost →
    fates[i]? = some .fails ∨ ∃ reason, fates[i]? = some (.refused reason)
  /-- A task is timed out by a deadline that has passed before its report was received. -/
  timedOut : ∀ i : Nat, settled[i]? = some .timedOut →
    limited = true ∧ Signal.deadline ∈ trace ∧ reported trace i = false
  /-- Without a deadline the fates alone decide. -/
  unlimited : limited = false → settled = fates.map (·.settled true)

namespace Group

variable {fates : List (Fate α)} {limited : Bool} {trace : List (Signal α)} {g : Group α}

/-- A slot that is open when the wait is over was left open by the deadline. -/
theorem Run.deadline_of_unsettled (h : Run fates limited trace g) (hexit : g.exit ≠ none)
    {i : Nat} (hopen : g.slots[i]? = some none) :
    limited = true ∧ Signal.deadline ∈ trace := by
  have hs := h.sound
  have hpos := Slots.pending_pos hopen
  obtain ⟨e, he⟩ := Option.ne_none_iff_exists'.mp hexit
  cases e with
  | deadline => exact hs.deadline he
  | disconnected => exact absurd he hs.connected
  | complete =>
      have hzero := hs.complete he
      rw [hs.pending_eq] at hzero
      omega

/-- A task that is timed out has not been heard of, and its slot is open. -/
theorem Run.unsettled_of_timedOut (h : Run fates limited trace g) {i : Nat} {f : Fate α}
    (hf : fates[i]? = some f) (hset : f.settled (reported trace i) = .timedOut) :
    g.slots[i]? = some none ∧ reported trace i = false := by
  rw [h.sound.slot_of_fate hf]
  cases hrep : reported trace i with
  | false =>
      rw [hrep] at hset
      exact ⟨congrArg some (Fate.slot_of_settled_timedOut hset), rfl⟩
  | true =>
      rw [hrep] at hset
      have hheard := h.sound.heard i hrep
      rw [hf] at hheard
      exact absurd (Fate.report?_of_settled_timedOut hset) hheard

/-- What is answered when the wait is over. -/
theorem Run.answers (h : Run fates limited trace g) (hexit : g.exit ≠ none) :
    Answers fates limited trace
      (fates.mapIdx fun i f => f.settled (reported trace i)) := by
  have entry : ∀ {i : Nat} {s : Settled α},
      (fates.mapIdx fun i f => f.settled (reported trace i))[i]? = some s →
      ∃ f, fates[i]? = some f ∧ f.settled (reported trace i) = s := by
    intro i s hi
    rw [List.getElem?_mapIdx] at hi
    exact Option.map_eq_some_iff.mp hi
  refine ⟨List.length_mapIdx, fun i v hi => ?_, fun i hi => ?_, fun i hi => ?_, fun hlim => ?_⟩
  · obtain ⟨f, hf, hset⟩ := entry hi
    rw [hf, Fate.eq_returns_of_settled hset]
  · obtain ⟨f, hf, hset⟩ := entry hi
    rw [hf]
    rcases Fate.eq_of_settled_lost hset with rfl | ⟨reason, rfl⟩
    · exact .inl rfl
    · exact .inr ⟨reason, rfl⟩
  · obtain ⟨f, hf, hset⟩ := entry hi
    obtain ⟨hopen, hrep⟩ := h.unsettled_of_timedOut hf hset
    obtain ⟨hlim, hmem⟩ := h.deadline_of_unsettled hexit hopen
    exact ⟨hlim, hmem, hrep⟩
  · refine List.ext_getElem? fun i => ?_
    rw [List.getElem?_mapIdx, List.getElem?_map]
    cases hf : fates[i]? with
    | none => rfl
    | some f =>
        have hslot := h.sound.slot_of_fate hf
        cases hs : f.slot (reported trace i) with
        | some s => exact congrArg some (Fate.settled_eq_of_slot hs)
        | none =>
            rw [hs] at hslot
            rw [(h.deadline_of_unsettled hexit hslot).1] at hlim
            cases hlim

/-- Every task is settled, and correctly, under every schedule. The first part is about the wait
while it lasts: where its loop stands, that its counter is exact, and that a report on its way
finds its slot open. The second part says that the wait comes to its end, the third what it then
answers, whatever is reported later. -/
theorem Run.settles {tasks : List (Text × Fate α)} {limited : Bool} {trace : List (Signal α)}
    {g : Group α} (hlabels : ∀ task ∈ tasks, '\x00' ∉ task.1)
    (h : Run (tasks.map Prod.snd) limited trace g) :
    ((∀ rest, g.exit = none →
        receive (Group.start (tasks.map Prod.snd)).slots
          (Group.start (tasks.map Prod.snd)).pending (trace ++ rest)
          = receive g.slots g.pending rest) ∧
      g.pending = g.slots.pending ∧
      ∀ i s, (i, s) ∈ g.channel → g.slots[i]? = some none ∧ 0 < g.pending) ∧
    ((g.exit = none → (∃ signal g', Step (tasks.map Prod.snd) limited signal g g') ∨
        limited = false ∧ .hangs ∈ tasks.map Prod.snd) ∧
      WellFounded fun g₂ g₁ : Group α =>
        ∃ signal, Step (tasks.map Prod.snd) limited signal g₁ g₂) ∧
    (g.exit ≠ none → ∃ settled,
      (∀ late, joinLabelled? (starts tasks) (trace ++ late) = some settled) ∧
      Answers (tasks.map Prod.snd) limited trace settled) := by
  have hs := h.sound
  refine ⟨⟨fun rest hwait => h.receive_run hwait rest, hs.pending_eq, fun i s hmem => ?_⟩,
    ⟨h.exists_step, Step.wellFounded _ _⟩, fun hexit => ⟨_, fun late => ?_, h.answers hexit⟩⟩
  · have hopen := hs.unsettled_of_mem_channel hmem
    exact ⟨hopen, hs.pending_eq ▸ Slots.pending_pos hopen⟩
  · rw [joinLabelled?_starts hlabels, h.join_eq hexit]

/-- Four tasks with a fate of each kind. -/
def mixed (v : α) : List (Text × Fate α) :=
  [("a".toList, .returns v), ("b".toList, .fails), ("c".toList, .refused "no thread".toList),
    ("d".toList, .hangs)]

/-- A run of the four: the failure is reported first, the value is received first, and the
deadline passes before the failure is received. -/
theorem run_mixed (v : α) :
    Run ((mixed v).map Prod.snd) true [.report 0 (.finished v), .report 1 .lost, .deadline]
      ⟨[3], [], true, [some (.finished v), some .lost, some .lost, none], 1,
        some .deadline⟩ := by
  have begun : Run ((mixed v).map Prod.snd) true []
      ⟨[0, 1, 3], [], false, [none, none, some .lost, none], 3, none⟩ := .start
  have ended := (begun.step (.ends (i := 1) (s := .lost) (by simp) rfl)).step
    (.ends (i := 0) (s := .finished v) (by simp) rfl)
  have heard : Run ((mixed v).map Prod.snd) true [.report 0 (.finished v)]
      ⟨[3], [(1, .lost)], false, [some (.finished v), none, some .lost, none], 2, none⟩ :=
    ended.step (.receives rfl (by simp) List.singleton_append.symm)
  have both := (heard.step (.expires rfl rfl)).step
    (.receives rfl (by simp) (List.nil_append _).symm)
  exact both.step (.givesUp rfl (by simp) rfl rfl)

theorem Run.settles_mixed :
    (∀ task ∈ mixed 7, '\x00' ∉ task.1) ∧
    Run ((mixed 7).map Prod.snd) true [.report 0 (.finished 7), .report 1 .lost, .deadline]
      ⟨[3], [], true, [some (.finished 7), some .lost, some .lost, none], 1, some .deadline⟩ ∧
    joinLabelled? (starts (mixed 7))
      [.report 0 (.finished 7), .report 1 .lost, .deadline, .report 3 (.finished 8)]
      = some [.finished 7, .lost, .lost, .timedOut] ∧
    Answers ((mixed 7).map Prod.snd) true
      [.report 0 (.finished 7), .report 1 .lost, .deadline]
      [.finished 7, .lost, .lost, .timedOut] := by
  have hlabels : ∀ task ∈ mixed 7, '\x00' ∉ task.1 := by decide
  obtain ⟨-, -, hanswer⟩ := Run.settles hlabels (run_mixed 7)
  obtain ⟨settled, hjoin, hans⟩ := hanswer (by decide)
  have hvalue : joinLabelled? (starts (mixed 7))
      [.report 0 (.finished 7), .report 1 .lost, .deadline]
      = some [.finished 7, .lost, .lost, .timedOut] := by decide
  obtain rfl := Option.some.inj (hvalue.symm.trans (hjoin []))
  exact ⟨hlabels, run_mixed 7, hjoin [.report 3 (.finished 8)], hans⟩

end Group

end Explainer.Load
