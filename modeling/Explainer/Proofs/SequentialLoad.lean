import Explainer.Proofs.SettledGroup
import Explainer.Proofs.TimedRun
import Explainer.Session
import Mathlib.Data.List.ReduceOption

/-!
# A load is the merge of what came, one set after the other

A load fetches its sets together, in any order and with any mishaps, and then
merges. `sequential` says what comes out without fetching anything: given how
the fetch of each set ended, it takes the templates of the sets that came and
could be read, in the order of the request, and offers them to the registry;
a set that failed in any way gives nothing and is counted.

That the merge loop computes this is an induction over the sets
(`mergeAll_eq_sequential`). That the fetch of each set ended as its own fate
has it, whatever the others did and however the reports were ordered, is what
the theory of groups says of every run. Both together are
`load_eq_sequential`, where a name that cannot label a task has its own part:
such a load ends before anything is merged.
-/

namespace Explainer

/-- The counts of batches together. -/
def MergeStats.sum (counts : List MergeStats) : MergeStats := counts.foldr (· + ·) .zero

/-- The counts of batches that are offered one after the other. -/
def Registry.batchStats (r : Registry) : List (List MessageTemplate) → List MergeStats
  | [] => []
  | batch :: rest => r.extendStats batch :: (r.extend batch).batchStats rest

namespace Load

/-- The templates of a set, if it came and could be read. -/
def Extractor.contribution? (x : Extractor) (name : Text) :
    Settled Answer → Option (List MessageTemplate)
  | .finished (.ok text) => (x.extract name text).toOption
  | _ => none

/-- The contributions of sets, given their names, each with how its fetch ended. -/
def Extractor.contributions (x : Extractor) (sets : List (Text × Settled Answer)) :
    List (Option (List MessageTemplate)) :=
  sets.map fun (name, outcome) => x.contribution? name outcome

/-- The registry and the result of a load of the given sets, in the order of the request. -/
def sequential (x : Extractor) (r : Registry) (sets : List (Text × Settled Answer)) :
    Registry × Except LoadError LoadSummary :=
  let loaded := (x.contributions sets).reduceOption
  let failed := (x.contributions sets).countP Option.isNone
  let merged := MergeStats.sum (r.batchStats loaded)
  (r.extend loaded.flatten,
    if failed = 0 then .ok ⟨sets.length, merged⟩ else .error ⟨failed, sets.length, merged⟩)

/-! ## The merge loop -/

theorem toOption_templatesOf (x : Extractor) (timeout : Option Nat) (q : Request)
    (s : Settled Answer) : (templatesOf x timeout q s).1.toOption = x.contribution? q.name s := by
  cases s with
  | timedOut | lost => rfl
  | finished answer =>
      cases answer with
      | error e => rfl
      | ok text =>
          simp only [templatesOf, fetched, Extractor.contribution?]
          cases x.extract q.name text <;> rfl

namespace Progress

variable {x : Extractor} {q : Request} {s : Settled Answer}

/-- A set that came and could be read is merged. -/
theorem step_of_contribution (timeout : Option Nat) (p : Progress) {ts : List MessageTemplate}
    (h : x.contribution? q.name s = some ts) :
    (p.step x timeout (q, s)).registry = p.registry.extend ts ∧
      (p.step x timeout (q, s)).merged = p.merged + p.registry.extendStats ts ∧
      (p.step x timeout (q, s)).failed = p.failed := by
  rw [← toOption_templatesOf x timeout] at h
  simp only [step]
  cases hout : (templatesOf x timeout q s).1 with
  | error e => rw [hout] at h; cases h
  | ok ts' =>
      rw [hout] at h
      obtain rfl : ts' = ts := Option.some.inj h
      exact ⟨rfl, rfl, rfl⟩

/-- A set that failed is counted, and nothing else. -/
theorem step_of_no_contribution (timeout : Option Nat) (p : Progress)
    (h : x.contribution? q.name s = none) :
    (p.step x timeout (q, s)).registry = p.registry ∧
      (p.step x timeout (q, s)).merged = p.merged ∧
      (p.step x timeout (q, s)).failed = p.failed + 1 := by
  rw [← toOption_templatesOf x timeout] at h
  simp only [step]
  cases hout : (templatesOf x timeout q s).1 with
  | error e => exact ⟨rfl, rfl, rfl⟩
  | ok ts' => rw [hout] at h; cases h

/-- A request without its path. -/
def named (set : Request × Settled Answer) : Text × Settled Answer := (set.1.name, set.2)

/-- What the loop has done after some sets. -/
theorem foldl_step (x : Extractor) (timeout : Option Nat)
    (sets : List (Request × Settled Answer)) :
    ∀ p : Progress,
      (sets.foldl (step x timeout) p).registry
          = p.registry.extend (x.contributions (sets.map named)).reduceOption.flatten ∧
        (sets.foldl (step x timeout) p).merged
          = p.merged
            + .sum (p.registry.batchStats (x.contributions (sets.map named)).reduceOption) ∧
        (sets.foldl (step x timeout) p).failed
          = p.failed + (x.contributions (sets.map named)).countP Option.isNone := by
  induction sets with
  | nil => exact fun p => ⟨rfl, rfl, rfl⟩
  | cons set rest ih =>
      intro p
      obtain ⟨q, s⟩ := set
      have hcons : x.contributions (((q, s) :: rest).map named)
          = x.contribution? q.name s :: x.contributions (rest.map named) := rfl
      obtain ⟨hreg, hmerged, hfailed⟩ := ih (p.step x timeout (q, s))
      rw [List.foldl_cons, hcons, hreg, hmerged, hfailed]
      cases hc : x.contribution? q.name s with
      | none =>
          obtain ⟨h₁, h₂, h₃⟩ := step_of_no_contribution timeout p hc
          rw [h₁, h₂, h₃, List.reduceOption_cons_of_none, List.countP_cons_of_pos rfl]
          exact ⟨rfl, rfl, by omega⟩
      | some ts =>
          obtain ⟨h₁, h₂, h₃⟩ := step_of_contribution timeout p hc
          rw [h₁, h₂, h₃, List.reduceOption_cons_of_some, List.flatten_cons,
            Registry.extend_append, List.countP_cons_of_neg (by simp)]
          exact ⟨rfl, MergeStats.add_assoc _ _ _, rfl⟩

end Progress

theorem mergeAll_eq_sequential (x : Extractor) (timeout : Option Nat) (r : Registry)
    (sets : List (Request × Settled Answer)) :
    ((mergeAll x timeout r sets).registry, (mergeAll x timeout r sets).result)
      = sequential x r (sets.map Progress.named) := by
  obtain ⟨hreg, hmerged, hfailed⟩ := Progress.foldl_step x timeout sets (.start r)
  rw [show (Progress.start r).failed = 0 from rfl, Nat.zero_add] at hfailed
  rw [show (Progress.start r).merged = .zero from rfl, MergeStats.zero_add] at hmerged
  simp only [mergeAll, sequential, Progress.result, hreg, hmerged, hfailed, List.length_map,
    Nat.pos_iff_ne_zero, ite_not]
  rfl

/-! ## The load -/

/-- How the fetches of sets end, given what the load has received. -/
def outcomes (sets : List (Text × Fate Answer)) (trace : List (Signal Answer)) :
    List (Text × Settled Answer) :=
  sets.mapIdx fun i (name, fate) => (name, fate.settled (reported trace i))

/-- What a load leaves beside its events. -/
def Loaded.outcome (loaded : Loaded) : Registry × Except LoadError LoadSummary :=
  (loaded.registry, loaded.result)

namespace Loader

variable {sets : List (Text × Fate Answer)} {trace : List (Signal Answer)} {g : Group Answer}

/-- A load is the sequential one of its sets, each with what the group answers about it. -/
theorem outcome_loadWith? (l : Loader) (r : Registry) (base : Text) (fetches : List Start)
    (signals : List (Signal Answer)) :
    (l.loadWith? r base fetches signals).map Loaded.outcome
      = (joinLabelled? fetches signals).map fun settled =>
          sequential l.extractor r ((fetches.map (·.label)).zip settled) := by
  rw [loadWith?, Option.map_map]
  refine congrArg (Option.map · _) (funext fun settled => ?_)
  have hnamed : ((fetches.map fun s => Request.of base s.label).zip settled).map Progress.named
      = (fetches.map (·.label)).zip settled := by
    rw [List.zip_map_left, List.zip_map_left, List.map_map]
    rfl
  rw [← hnamed]
  exact mergeAll_eq_sequential l.extractor l.timeout r _

/-- A load pairs each set with the outcome of its own fetch. -/
theorem zip_settled (sets : List (Text × Fate Answer)) (trace : List (Signal Answer)) :
    ((starts sets).map (·.label)).zip
      ((sets.map Prod.snd).mapIdx fun i f => f.settled (reported trace i))
      = outcomes sets trace := by
  refine List.ext_getElem? fun i => ?_
  simp only [starts, outcomes, List.getElem?_map, List.getElem?_mapIdx, List.zip_eq_zipWith,
    List.getElem?_zipWith]
  cases sets[i]? <;> rfl

theorem loadWith?_of_run (l : Loader) (r : Registry) (base : Text)
    (hnames : ∀ set ∈ sets, '\x00' ∉ set.1)
    (h : Group.Run (sets.map Prod.snd) l.timeout.isSome trace g) (hexit : g.exit ≠ none)
    (late : List (Signal Answer)) :
    (l.loadWith? r base (starts sets) (trace ++ late)).map Loaded.outcome
      = some (sequential l.extractor r (outcomes sets trace)) := by
  rw [outcome_loadWith?, joinLabelled?_starts hnames, h.join_eq hexit, Option.map_some,
    zip_settled]

/-- Without a deadline every fetch ends as its fate has it. -/
theorem outcomes_of_unlimited (h : Group.Run (sets.map Prod.snd) false trace g)
    (hexit : g.exit ≠ none) :
    outcomes sets trace = sets.map fun set => (set.1, set.2.settled true) := by
  rw [← zip_settled, (h.answers hexit).unlimited rfl, starts, List.map_map, List.map_map]
  exact List.zip_map'

/-- The fetches that a load makes. -/
def fetches (l : Loader) (base : Text) (names : List Text) : List (Text × Fate Answer) :=
  names.map fun n => (n, (l.source (setPath base n)).fate)

/-- The courses that the fetches of a load take. -/
def courses (l : Loader) (base : Text) (names : List Text) : List (Course Answer) :=
  names.map fun n => l.source (setPath base n)

theorem fates_courses (l : Loader) (base : Text) (names : List Text) :
    (l.courses base names).map Course.fate = (l.fetches base names).map Prod.snd := by
  simp only [fetches, courses, List.map_map, Function.comp_def]

theorem load?_eq_loadWith? (l : Loader) (r : Registry) (base : Text) (names : List Text)
    (hends : l.timeout.isSome = true ∨ .hangs ∉ (l.fetches base names).map Prod.snd) :
    l.load? r base names
      = l.loadWith? r base (starts (l.fetches base names))
          (signalsOf l.timeout (l.courses base names)) := by
  rw [← fates_courses] at hends
  have hwait : waitEnds l.timeout (l.courses base names) = true := waitEnds_iff.mpr hends
  rw [courses] at hwait ⊢
  simp only [load?, hwait, if_true, starts, fetches, List.map_map, Function.comp_def]

/-- The load of a source is that of a run, if its fetches are not waited for in vain. -/
theorem exists_run_load? (l : Loader) (r : Registry) (base : Text) (names : List Text)
    (hends : l.timeout.isSome = true ∨ .hangs ∉ (l.fetches base names).map Prod.snd) :
    ∃ trace late g, Group.Run ((l.fetches base names).map Prod.snd) l.timeout.isSome trace g ∧
      g.exit ≠ none ∧
      l.load? r base names
        = l.loadWith? r base (starts (l.fetches base names)) (trace ++ late) := by
  have hload := l.load?_eq_loadWith? r base names hends
  rw [← fates_courses] at hends ⊢
  obtain ⟨trace, late, g, h, hexit, hsignals⟩ := exists_run_signalsOf hends
  exact ⟨trace, late, g, h, hexit, by rw [hload, hsignals]⟩

/-- A load that waits in vain has no result. -/
theorem load?_eq_none_of_hangs (l : Loader) (r : Registry) (base : Text) {names : List Text}
    (hl : l.timeout = none) (hmem : .hangs ∈ (l.fetches base names).map Prod.snd) :
    l.load? r base names = none := by
  have hwait : waitEnds l.timeout (l.courses base names) = false := by
    rw [Bool.eq_false_iff, ne_eq, waitEnds_iff, fates_courses, hl]
    rintro (hsome | hnot)
    · cases hsome
    · exact hnot hmem
  rw [courses] at hwait
  simp only [load?, hwait, Bool.false_eq_true, if_false]

theorem loadWith?_eq_none (l : Loader) (r : Registry) (base : Text) (signals : List (Signal Answer))
    (hnul : ∃ set ∈ sets, '\x00' ∈ set.1) :
    l.loadWith? r base (starts sets) signals = none := by
  obtain ⟨set, hset, hmem⟩ := hnul
  have hjoin : joinLabelled? (starts sets) signals = none :=
    joinLabelled?_eq_none_iff.mpr ⟨.of set.1 set.2, List.mem_map_of_mem hset, hmem⟩
  rw [loadWith?, hjoin, Option.map_none]

theorem load?_eq_none (l : Loader) (r : Registry) (base : Text) {names : List Text}
    (hnul : ∃ n ∈ names, '\x00' ∈ n) : l.load? r base names = none := by
  obtain ⟨n, hn, hmem⟩ := hnul
  have hjoin (signals : List (Signal Answer)) :
      joinLabelled? (names.map fun n => .of n (l.source (setPath base n)).fate) signals = none :=
    joinLabelled?_eq_none_iff.mpr ⟨_, List.mem_map_of_mem hn, hmem⟩
  simp only [load?, loadWith?, hjoin, Option.map_none, ite_self]

/-- A load under any schedule of its fetches is the sequential one, whatever is reported when the
wait for them is over; the load of a source is one of these. A name that cannot label a task ends
a load without a result, and leaves a session as it was. -/
theorem load_eq_sequential (l : Loader) (r : Registry) (base : Text) :
    (∀ sets : List (Text × Fate Answer), (∀ set ∈ sets, '\x00' ∉ set.1) →
      ∀ trace g, Group.Run (sets.map Prod.snd) l.timeout.isSome trace g → g.exit ≠ none →
        ∀ late, (l.loadWith? r base (starts sets) (trace ++ late)).map Loaded.outcome
          = some (sequential l.extractor r (outcomes sets trace))) ∧
    (∀ names : List Text,
      l.timeout.isSome = true ∨ .hangs ∉ (l.fetches base names).map Prod.snd →
      ∃ trace late g, Group.Run ((l.fetches base names).map Prod.snd) l.timeout.isSome trace g ∧
        g.exit ≠ none ∧
        l.load? r base names
          = l.loadWith? r base (starts (l.fetches base names)) (trace ++ late)) ∧
    (∀ sets : List (Text × Fate Answer), (∃ set ∈ sets, '\x00' ∈ set.1) →
      ∀ signals, l.loadWith? r base (starts sets) signals = none) ∧
    (∀ (s : Session) (plan : LoadPlan) (names : List Text), (∃ n ∈ names, '\x00' ∈ n) →
      s.load plan base names = (s, none, [])) := by
  refine ⟨fun sets hnames trace g h hexit late => l.loadWith?_of_run r base hnames h hexit late,
    l.exists_run_load? r base, fun sets hnul signals => l.loadWith?_eq_none r base signals hnul,
    fun s plan names hnul => ?_⟩
  rw [Session.load, load?_eq_none _ _ _ hnul]

/-- Of four sets one comes, in time and readable. -/
theorem load_eq_sequential_mixed :
    let l : Loader := ⟨fun _ => ⟨0, .hangs⟩, .lines, some 5⟩
    let r : Registry := (Registry.empty .lastWins).put ⟨"T".toList, "old".toList, none⟩
    let sets := Group.mixed (α := Answer) (.ok "T|one\nU|two".toList)
    let trace : List (Signal Answer) :=
      [.report 0 (.finished (.ok "T|one\nU|two".toList)), .report 1 .lost, .deadline]
    (∀ set ∈ sets, '\x00' ∉ set.1) ∧
    (l.loadWith? r "tips/".toList (starts sets) (trace ++ [.report 3 .lost])).map Loaded.outcome
      = some (r.extend [⟨"T".toList, "one".toList, some "a".toList⟩,
          ⟨"U".toList, "two".toList, some "a".toList⟩],
        .error ⟨3, 4, ⟨1, 1, 0⟩⟩) := by
  have hnames : ∀ set ∈ Group.mixed (α := Answer) (.ok "T|one\nU|two".toList),
      '\x00' ∉ set.1 := by decide
  refine ⟨hnames, ?_⟩
  exact ((load_eq_sequential _ _ "tips/".toList).1 _ hnames _ _ (Group.run_mixed _) (by simp)
    _).trans rfl

end Loader

end Load

end Explainer
