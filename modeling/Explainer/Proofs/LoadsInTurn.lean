import Explainer.Proofs.Conservation

/-!
# One load or several

Sets may be loaded in one call or in several calls, one after the other, and it
comes to the same. The registry is the same in the end, whether any of the
calls failed or not; and what the single call says of failures, of requested
sets and of merged templates is what the others say together. It is a success
just when all of them are.

This is for loads without a deadline. There each fetch ends as its own fate has
it, so that asking for a set together with others, or in a later call, makes no
difference to what is answered (`Loader.Ends.outcome_eq`); and a call comes to
its end unless a fetch of it hangs. The rest is arithmetic of batches: what the
second call meets is the registry that the first has left, and the counts of
the one batch of all templates split there (`Loaded.addsUp_of_sequential`).
-/

namespace Explainer.Load

/-! ## What a load says -/

namespace Loaded

/-- How many sets have failed. -/
def failed (loaded : Loaded) : Nat :=
  match loaded.result with
  | .ok _ => 0
  | .error e => e.failed

/-- How many sets have been asked for. -/
def requested (loaded : Loaded) : Nat :=
  match loaded.result with
  | .ok s => s.sets
  | .error e => e.requested

/-- What became of the templates of the sets that came. -/
def merged (loaded : Loaded) : MergeStats :=
  match loaded.result with
  | .ok s => s.merged
  | .error e => e.merged

/-- One load leaves and says what two in turn do. -/
structure AddsUp (whole first second : Loaded) : Prop where
  registry_eq : whole.registry = second.registry
  failed_eq : whole.failed = first.failed + second.failed
  requested_eq : whole.requested = first.requested + second.requested
  merged_eq : whole.merged = first.merged + second.merged
  isOk_eq : whole.result.isOk = (first.result.isOk && second.result.isOk)

variable {x : Extractor} {r : Registry} {sets : List (Text × Settled Answer)}

/-- What a sequential load leaves and says, in terms of the sets that came. -/
theorem says_of_sequential {loaded : Loaded}
    (h : loaded.outcome = sequential x r sets) :
    let batch := (x.contributions sets).reduceOption.flatten
    loaded.registry = r.extend batch ∧
      loaded.failed = (x.contributions sets).countP Option.isNone ∧
      loaded.requested = sets.length ∧ loaded.merged = r.extendStats batch ∧
      (loaded.result.isOk = true ↔ loaded.failed = 0) := by
  intro batch
  obtain ⟨hreg, hresult⟩ := Prod.mk.inj h
  rw [Registry.sum_batchStats] at hresult
  refine ⟨hreg, ?_⟩
  rw [failed, requested, merged]
  by_cases hfailed : (x.contributions sets).countP Option.isNone = 0
  · rw [if_pos hfailed] at hresult
    rw [hresult]
    exact ⟨hfailed.symm, rfl, rfl, iff_of_true rfl rfl⟩
  · rw [if_neg hfailed] at hresult
    rw [hresult]
    exact ⟨rfl, rfl, rfl, iff_of_false Bool.false_ne_true hfailed⟩

theorem addsUp_of_sequential {first second whole : Loaded}
    {a b : List (Text × Settled Answer)} (hfirst : first.outcome = sequential x r a)
    (hsecond : second.outcome = sequential x first.registry b)
    (hwhole : whole.outcome = sequential x r (a ++ b)) :
    whole.AddsUp first second := by
  obtain ⟨hreg₁, hfailed₁, hreq₁, hmerged₁, hok₁⟩ := says_of_sequential hfirst
  obtain ⟨hreg₂, hfailed₂, hreq₂, hmerged₂, hok₂⟩ := says_of_sequential hsecond
  obtain ⟨hreg, hfailed, hreq, hmerged, hok⟩ := says_of_sequential hwhole
  -- The batch of all templates splits where the second load begins, and the
  -- registry that meets its second part is the one that the first has left.
  have happend : x.contributions (a ++ b) = x.contributions a ++ x.contributions b :=
    List.map_append
  rw [happend, List.reduceOption_append, List.flatten_append] at hreg hmerged
  rw [happend, List.countP_append, ← hfailed₁, ← hfailed₂] at hfailed
  rw [Registry.extend_append, ← hreg₁, ← hreg₂] at hreg
  rw [Registry.extendStats_append, ← hreg₁, ← hmerged₁, ← hmerged₂] at hmerged
  rw [List.length_append, ← hreq₁, ← hreq₂] at hreq
  refine ⟨hreg, hfailed, hreq, hmerged, ?_⟩
  rw [Bool.eq_iff_iff, Bool.and_eq_true, hok, hok₁, hok₂, hfailed]
  exact Nat.add_eq_zero_iff

end Loaded

/-! ## Loads without a deadline -/

namespace Loader

/-- How the fetches of sets end when nothing cuts them off. -/
def answers (l : Loader) (base : Text) (names : List Text) :
    List (Text × Settled Answer) :=
  (l.fetches base names).map fun set => (set.1, set.2.settled true)

theorem answers_append (l : Loader) (base : Text) (ms ns : List Text) :
    l.answers base (ms ++ ns) = l.answers base ms ++ l.answers base ns := by
  rw [answers, fetches, List.map_append, List.map_append]
  rfl

/-- What a load can leave: its fetches run under some schedule to the end of the
wait, and more may be reported after that. -/
def Ends (l : Loader) (r : Registry) (base : Text) (names : List Text)
    (loaded : Loaded) : Prop :=
  ∃ trace late g,
    Group.Run ((l.fetches base names).map Prod.snd) l.timeout.isSome trace g ∧
      g.exit ≠ none ∧
      l.loadWith? r base (starts (l.fetches base names)) (trace ++ late) = some loaded

variable {l : Loader} {r : Registry} {base : Text} {names : List Text}

theorem nul_notMem_fetches (hnames : ∀ n ∈ names, '\x00' ∉ n) :
    ∀ set ∈ l.fetches base names, '\x00' ∉ set.1 := by
  intro set hset
  obtain ⟨n, hn, rfl⟩ := List.mem_map.1 hset
  exact hnames n hn

/-- Without a deadline the schedule does not matter. -/
theorem Ends.outcome_eq {loaded : Loaded} (h : l.Ends r base names loaded)
    (hl : l.timeout = none) (hnames : ∀ n ∈ names, '\x00' ∉ n) :
    loaded.outcome = sequential l.extractor r (l.answers base names) := by
  obtain ⟨trace, late, g, hrun, hexit, hload⟩ := h
  have houtcome :=
    l.loadWith?_of_run r base (nul_notMem_fetches hnames) hrun hexit late
  rw [hl] at hrun
  rw [hload, outcomes_of_unlimited hrun hexit] at houtcome
  exact Option.some.inj houtcome

/-- The clock is one of the schedules. -/
theorem ends_of_load? {loaded : Loaded} (hl : l.timeout = none)
    (h : l.load? r base names = some loaded) : l.Ends r base names loaded := by
  have hnot : .hangs ∉ (l.fetches base names).map Prod.snd := by
    intro hmem
    rw [l.load?_eq_none_of_hangs r base hl hmem] at h
    cases h
  obtain ⟨trace, late, g, hrun, hexit, hload⟩ :=
    l.exists_run_load? r base names (.inr hnot)
  exact ⟨trace, late, g, hrun, hexit, hload ▸ h⟩

theorem exists_load? (r : Registry) (base : Text) (hnames : ∀ n ∈ names, '\x00' ∉ n)
    (hnot : .hangs ∉ (l.fetches base names).map Prod.snd) :
    ∃ loaded, l.load? r base names = some loaded := by
  obtain ⟨trace, late, g, hrun, hexit, hload⟩ :=
    l.exists_run_load? r base names (.inr hnot)
  obtain ⟨loaded, hsome, -⟩ := Option.map_eq_some_iff.1
    (l.loadWith?_of_run r base (nul_notMem_fetches hnames) hrun hexit late)
  exact ⟨loaded, hload.trans hsome⟩

/-- A load without a deadline returns unless a fetch of it hangs. -/
theorem exists_ends_iff (hl : l.timeout = none) (r : Registry) (base : Text)
    (hnames : ∀ n ∈ names, '\x00' ∉ n) :
    (∃ loaded, l.Ends r base names loaded) ↔
      .hangs ∉ (l.fetches base names).map Prod.snd := by
  constructor
  · rintro ⟨loaded, trace, late, g, hrun, hexit, -⟩ hmem
    obtain ⟨i, hi⟩ := List.mem_iff_getElem?.1 hmem
    have hopen := hrun.sound.slot_of_fate hi
    rw [Fate.slot_eq_of_silent rfl] at hopen
    have hlimited := (hrun.deadline_of_unsettled hexit hopen).1
    rw [hl] at hlimited
    cases hlimited
  · intro hnot
    obtain ⟨loaded, hload⟩ := exists_load? r base hnames hnot
    exact ⟨loaded, ends_of_load? hl hload⟩

theorem hangs_mem_append {ms ns : List Text} :
    .hangs ∈ (l.fetches base (ms ++ ns)).map Prod.snd ↔
      .hangs ∈ (l.fetches base ms).map Prod.snd ∨
        .hangs ∈ (l.fetches base ns).map Prod.snd := by
  rw [fetches, List.map_append, List.map_append, List.mem_append]
  rfl

theorem exists_ends_append_iff (hl : l.timeout = none) (r : Registry) (base : Text)
    {ms ns : List Text} (hms : ∀ n ∈ ms, '\x00' ∉ n) (hns : ∀ n ∈ ns, '\x00' ∉ n) :
    (∃ whole, l.Ends r base (ms ++ ns) whole) ↔
      ∃ first second, l.Ends r base ms first ∧
        l.Ends first.registry base ns second := by
  rw [exists_ends_iff hl r base (List.forall_mem_append.2 ⟨hms, hns⟩), hangs_mem_append,
    not_or]
  constructor
  · rintro ⟨hfirst, hsecond⟩
    obtain ⟨first, hfirst⟩ := (exists_ends_iff hl r base hms).2 hfirst
    obtain ⟨second, hsecond⟩ :=
      (exists_ends_iff hl first.registry base hns).2 hsecond
    exact ⟨first, second, hfirst, hsecond⟩
  · rintro ⟨first, second, hfirst, hsecond⟩
    exact ⟨(exists_ends_iff hl r base hms).1 ⟨first, hfirst⟩,
      (exists_ends_iff hl first.registry base hns).1 ⟨second, hsecond⟩⟩

theorem Ends.addsUp (hl : l.timeout = none) {ms ns : List Text}
    (hms : ∀ n ∈ ms, '\x00' ∉ n) (hns : ∀ n ∈ ns, '\x00' ∉ n)
    {first second whole : Loaded} (hfirst : l.Ends r base ms first)
    (hsecond : l.Ends first.registry base ns second)
    (hwhole : l.Ends r base (ms ++ ns) whole) : whole.AddsUp first second := by
  have ho := hwhole.outcome_eq hl (List.forall_mem_append.2 ⟨hms, hns⟩)
  rw [answers_append] at ho
  exact Loaded.addsUp_of_sequential (hfirst.outcome_eq hl hms)
    (hsecond.outcome_eq hl hns) ho

/-- Two lists of sets may be loaded by one call or by two. Unless a fetch hangs all
three calls return, and whatever the first says, the single call leaves the
registry of the second and says what they say together; where one hangs, neither
the single call nor the second one returns. Under arbitrary schedules of the
fetches the single call can come to its end just when the two can, and what it
leaves is what they leave, each under its own schedule. -/
theorem load_append (hl : l.timeout = none) (r : Registry) (base : Text)
    {ms ns : List Text} (hms : ∀ n ∈ ms, '\x00' ∉ n) (hns : ∀ n ∈ ns, '\x00' ∉ n) :
    (.hangs ∉ (l.fetches base (ms ++ ns)).map Prod.snd →
        ∃ first second whole, l.load? r base ms = some first ∧
          l.load? first.registry base ns = some second ∧
          l.load? r base (ms ++ ns) = some whole ∧ whole.AddsUp first second) ∧
      (.hangs ∈ (l.fetches base (ms ++ ns)).map Prod.snd →
        l.load? r base (ms ++ ns) = none ∧
          ∀ first, l.load? r base ms = some first →
            l.load? first.registry base ns = none) ∧
      ((∃ whole, l.Ends r base (ms ++ ns) whole) ↔
        ∃ first second, l.Ends r base ms first ∧
          l.Ends first.registry base ns second) ∧
      ∀ first second whole, l.Ends r base ms first →
        l.Ends first.registry base ns second → l.Ends r base (ms ++ ns) whole →
        whole.AddsUp first second := by
  refine ⟨fun hnot => ?_, fun hmem => ⟨l.load?_eq_none_of_hangs r base hl hmem, ?_⟩,
    exists_ends_append_iff hl r base hms hns, fun _ _ _ => Ends.addsUp hl hms hns⟩
  · obtain ⟨whole, hwhole⟩ :=
      exists_load? r base (List.forall_mem_append.2 ⟨hms, hns⟩) hnot
    rw [hangs_mem_append, not_or] at hnot
    obtain ⟨first, hfirst⟩ := exists_load? r base hms hnot.1
    obtain ⟨second, hsecond⟩ := exists_load? first.registry base hns hnot.2
    exact ⟨first, second, whole, hfirst, hsecond, hwhole,
      (ends_of_load? hl hfirst).addsUp hl hms hns (ends_of_load? hl hsecond)
        (ends_of_load? hl hwhole)⟩
  · intro first hfirst
    rcases hangs_mem_append.1 hmem with hms' | hns'
    · rw [l.load?_eq_none_of_hangs r base hl hms'] at hfirst
      cases hfirst
    · exact l.load?_eq_none_of_hangs first.registry base hl hns'

/-- Two sets in memory, of which the second repeats the type of the first. -/
def twoSets : Loader where
  source := Memory.source ⟨[(setPath [] ['a'], "T|one".toList),
    (setPath [] ['c'], "U|two\nT|three".toList)], []⟩
  extractor := .lines
  timeout := none

/-- One set does not come, and one is asked for in both calls. -/
theorem load_append_twoSets :
    twoSets.timeout = none ∧ (∀ n ∈ [['a'], ['b']], '\x00' ∉ n) ∧
      (∀ n ∈ [['c'], ['a']], '\x00' ∉ n) ∧
      .hangs ∉ (twoSets.fetches [] ([['a'], ['b']] ++ [['c'], ['a']])).map Prod.snd ∧
      ∃ first second whole,
        twoSets.load? (.empty .lastWins) [] [['a'], ['b']] = some first ∧
        twoSets.load? first.registry [] [['c'], ['a']] = some second ∧
        twoSets.load? (.empty .lastWins) [] ([['a'], ['b']] ++ [['c'], ['a']])
          = some whole ∧
        whole.AddsUp first second ∧
        (first.result, second.result, whole.result)
          = (.error ⟨1, 2, ⟨1, 0, 0⟩⟩, .ok ⟨2, ⟨1, 2, 0⟩⟩,
              .error ⟨1, 4, ⟨2, 2, 0⟩⟩) := by
  have hms : ∀ n ∈ [['a'], ['b']], '\x00' ∉ n := by decide
  have hns : ∀ n ∈ [['c'], ['a']], '\x00' ∉ n := by decide
  have hboth := List.forall_mem_append.2 ⟨hms, hns⟩
  have hnot : .hangs ∉
      (twoSets.fetches [] ([['a'], ['b']] ++ [['c'], ['a']])).map Prod.snd := by decide
  refine ⟨rfl, hms, hns, hnot, ?_⟩
  obtain ⟨first, second, whole, hfirst, hsecond, hwhole, hadds⟩ :=
    (load_append (l := twoSets) rfl (.empty .lastWins) [] hms hns).1 hnot
  refine ⟨first, second, whole, hfirst, hsecond, hwhole, hadds, ?_⟩
  obtain ⟨hreg, hresult⟩ := Prod.mk.inj ((ends_of_load? rfl hfirst).outcome_eq rfl hms)
  have htwo := (ends_of_load? rfl hsecond).outcome_eq rfl hns
  rw [hreg] at htwo
  rw [hresult, (Prod.mk.inj htwo).2,
    (Prod.mk.inj ((ends_of_load? rfl hwhole).outcome_eq rfl hboth)).2]
  rfl

end Loader

end Explainer.Load
