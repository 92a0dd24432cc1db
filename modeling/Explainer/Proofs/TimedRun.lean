import Explainer.Proofs.GroupRun
import Mathlib.Data.List.Nodup

/-!
# The schedule of a clock

The clock that orders tasks by the time they take is one schedule among the
others. Its signals are the reports that come in time, and each of them can be
sent and received before the next task ends; so they are the trace of a run,
and what is proved of all runs holds of groups whose tasks take known times.
The deadline of the clock may come when nothing is pending any more. It is not
received then, which is why `exists_run_signalsOf` lets signals be left over.

Without a deadline the clock keeps nothing back, and the wait comes to its end
unless a task hangs (`waitEnds_iff`).
-/

namespace Explainer.Load

variable {α : Type}

/-! ## What arrives -/

theorem mem_arrivals {timeout : Option Nat} {courses : List (Course α)} {i : Nat}
    {s : Settled α} :
    (i, s) ∈ arrivals timeout courses ↔
      ∃ c, courses[i]? = some c ∧ c.fate.report? = some s ∧
        timeout.all (c.after ≤ ·) = true := by
  simp only [arrivals, List.mem_map, List.mem_mergeSort, List.mem_filter, List.mem_filterMap,
    Option.map_eq_some_iff]
  constructor
  · rintro ⟨⟨after, _⟩, ⟨⟨⟨c, j⟩, hc, outcome, hrep, heq⟩, htime⟩, rfl⟩
    cases heq
    exact ⟨c, List.mem_zipIdx_iff_getElem?.mp hc, hrep, htime⟩
  · rintro ⟨c, hc, hrep, htime⟩
    exact ⟨(c.after, i, s), ⟨⟨(c, i), List.mem_zipIdx_iff_getElem?.mpr hc, s, hrep, rfl⟩, htime⟩,
      rfl⟩

theorem nodup_arrivals (timeout : Option Nat) (courses : List (Course α)) :
    ((arrivals timeout courses).map Prod.fst).Nodup := by
  have hidx : courses.zipIdx.Pairwise fun a b => a.2 ≠ b.2 := by
    rw [← List.pairwise_map (f := Prod.snd), List.zipIdx_map_snd]
    exact List.nodup_range'
  have htimed : (courses.zipIdx.filterMap fun p =>
      p.1.fate.report?.map fun outcome => (p.1.after, p.2, outcome)).Pairwise
      fun a b => a.2.1 ≠ b.2.1 := by
    refine List.Pairwise.filterMap _ (fun a b hab x hx y hy => ?_) hidx
    obtain ⟨_, -, rfl⟩ := Option.map_eq_some_iff.mp hx
    obtain ⟨_, -, rfl⟩ := Option.map_eq_some_iff.mp hy
    exact hab
  rw [arrivals, List.map_map, ((List.mergeSort_perm _ _).map _).nodup_iff]
  exact List.pairwise_map.mpr (htimed.filter _)

theorem reported_map_report {rs : List (Nat × Settled α)} {i : Nat} :
    reported (rs.map fun (i, s) => .report i s) i = true ↔ i ∈ rs.map Prod.fst := by
  simp [reported]

/-- Without a deadline all is known of a task that there is to know. -/
theorem slot_reported_arrivals {courses : List (Course α)} {i : Nat} {c : Course α}
    (hc : courses[i]? = some c) :
    c.fate.slot (reported ((arrivals none courses).map fun (i, s) => .report i s) i)
      = c.fate.slot true := by
  cases hrep : c.fate.report? with
  | some s =>
      have hmem : (i, s) ∈ arrivals none courses := mem_arrivals.mpr ⟨c, hc, hrep, rfl⟩
      rw [reported_map_report.mpr (List.mem_map_of_mem hmem)]
  | none => exact Fate.slot_eq_of_silent hrep _

/-! ## The run behind the clock -/

namespace Group

variable {fates : List (Fate α)} {limited : Bool}

/-- The reports of a list, received one after the other, each as soon as it is sent. -/
theorem Run.exists_deliver {rs : List (Nat × Settled α)} (hnodup : (rs.map Prod.fst).Nodup) :
    ∀ {trace : List (Signal α)} {g : Group α}, Run fates limited trace g →
      g.exit = none → g.channel = [] →
      (∀ r ∈ rs, fates[r.1]?.bind Fate.report? = some r.2 ∧ reported trace r.1 = false) →
      ∃ g', Run fates limited (trace ++ rs.map fun (i, s) => .report i s) g' ∧
        g'.exit = none ∧ g'.channel = [] ∧ g'.expired = g.expired := by
  induction rs with
  | nil =>
      intro trace g h hwait hchan _
      exact ⟨g, by rwa [List.map_nil, List.append_nil], hwait, hchan, rfl⟩
  | cons r rs ih =>
      intro trace g h hwait hchan hrs
      obtain ⟨i, s⟩ := r
      obtain ⟨hi, hnodup⟩ := List.nodup_cons.mp hnodup
      obtain ⟨hrep, hnew⟩ := hrs (i, s) List.mem_cons_self
      obtain ⟨f, hf, hfs⟩ := Option.bind_eq_some_iff.mp hrep
      have hs := h.sound
      have hopen : g.slots[i]? = some none := by
        rw [hs.slot_of_fate hf, hnew]
        cases f with
        | refused reason | hangs => cases hfs
        | fails | returns v => rfl
      have hrun : i ∈ g.running := by
        simpa [hchan] using (hs.mem_unsettled i).mpr hopen
      have hpend : g.pending ≠ 0 := by
        rw [hs.pending_eq]
        exact Nat.ne_of_gt (Slots.pending_pos hopen)
      have hsent : g.channel ++ [(i, s)] = [] ++ (i, s) :: [] := by rw [hchan]
      have hstep := (h.step (.ends hrun hrep)).step (.receives hwait hpend hsent)
      obtain ⟨g', hrun', hend⟩ := ih hnodup hstep hwait rfl fun r hr => by
        obtain ⟨hr₁, hr₂⟩ := hrs r (List.mem_cons_of_mem _ hr)
        have hmem : r.1 ∈ rs.map Prod.fst := List.mem_map_of_mem hr
        have hne : (i == r.1) = false := beq_eq_false_iff_ne.mpr fun heq => hi (heq ▸ hmem)
        refine ⟨hr₁, ?_⟩
        simp only [Option.toList_none, Option.toList_some, reported_append, hr₂,
          reported_nil, reported_report, hne, Bool.or_false]
      exact ⟨g', by simpa using hrun', hend⟩

/-- All reports that the clock orders, received one after the other. -/
theorem exists_run_arrivals (timeout : Option Nat) (courses : List (Course α)) :
    ∃ g, Run (courses.map Course.fate) timeout.isSome
        ((arrivals timeout courses).map fun (i, s) => .report i s) g ∧
      g.exit = none ∧ g.channel = [] ∧ g.expired = false := by
  have begun : Run (courses.map Course.fate) timeout.isSome [] (start _) := .start
  exact begun.exists_deliver (nodup_arrivals timeout courses) rfl rfl fun (i, s) hr => by
    obtain ⟨c, hc, hrep, -⟩ := mem_arrivals.mp hr
    exact ⟨by rw [List.getElem?_map, hc]; exact hrep, rfl⟩

/-- Without a deadline the slots hold all that there is to know, when all reports have been
received. -/
theorem Run.slots_of_arrivals {courses : List (Course α)} {g : Group α}
    (h : Run (courses.map Course.fate) limited
      ((arrivals none courses).map fun (i, s) => .report i s) g) :
    g.slots = courses.map fun c => c.fate.slot true := by
  refine List.ext_getElem? fun i => ?_
  rw [h.sound.slots_eq, List.getElem?_mapIdx, List.getElem?_map, List.getElem?_map]
  cases hc : courses[i]? with
  | none => rfl
  | some c => exact congrArg some (slot_reported_arrivals hc)

/-- Where no task hangs, nothing is then pending. -/
theorem Run.pending_eq_zero_of_arrivals {courses : List (Course α)} {g : Group α}
    (hends : .hangs ∉ courses.map Course.fate)
    (h : Run (courses.map Course.fate) limited
      ((arrivals none courses).map fun (i, s) => .report i s) g) :
    g.pending = 0 := by
  rw [h.sound.pending_eq, h.slots_of_arrivals]
  refine List.countP_eq_zero.mpr fun slot hslot => ?_
  obtain ⟨c, hc, rfl⟩ := List.mem_map.mp hslot
  rw [Option.isNone_iff_eq_none]
  intro hnone
  exact hends (Fate.eq_hangs_of_slot_true hnone ▸ List.mem_map_of_mem hc)

end Group

theorem waitEnds_iff {timeout : Option Nat} {courses : List (Course α)} :
    waitEnds timeout courses = true ↔
      timeout.isSome = true ∨ .hangs ∉ courses.map Course.fate := by
  have hhangs (f : Fate α) : f.isHanging = true ↔ f = .hangs := by
    cases f <;> simp [Fate.isHanging]
  rw [waitEnds, Bool.or_eq_true, Bool.not_eq_true', List.any_eq_false, List.mem_map]
  refine or_congr Iff.rfl ⟨?_, ?_⟩
  · rintro hnone ⟨c, hc, hfate⟩
    exact hnone c hc ((hhangs c.fate).mpr hfate)
  · intro hnot c hc hfate
    exact hnot ⟨c, hc, (hhangs c.fate).mp hfate⟩

/-- The signals of a clock are those of a run, perhaps with a deadline that no longer matters. -/
theorem exists_run_signalsOf {timeout : Option Nat} {courses : List (Course α)}
    (hends : timeout.isSome = true ∨ .hangs ∉ courses.map Course.fate) :
    ∃ trace late g, Group.Run (courses.map Course.fate) timeout.isSome trace g ∧
      g.exit ≠ none ∧ signalsOf timeout courses = trace ++ late := by
  obtain ⟨g, h, hwait, hchan, hexp⟩ := Group.exists_run_arrivals timeout courses
  by_cases hpend : g.pending = 0
  · have hdone := h.step (.completes hwait hpend)
    rw [Option.toList_none, List.append_nil] at hdone
    exact ⟨_, _, _, hdone, Option.some_ne_none _, rfl⟩
  cases timeout with
  | none =>
      rcases hends with hsome | hnot
      · cases hsome
      · exact absurd (h.pending_eq_zero_of_arrivals hnot) hpend
  | some ms =>
      have hlate := h.step (.expires rfl hexp)
      rw [Option.toList_none, List.append_nil] at hlate
      exact ⟨_, [], _, hlate.step (.givesUp hwait hpend hchan rfl), Option.some_ne_none _,
        (List.append_nil _).symm⟩

end Explainer.Load
