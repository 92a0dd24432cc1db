import Explainer.Proofs.LoadsInTurn

/-!
# What a load reports adds up to its result

The result of a load counts the sets that failed and does not name them; who
needs the names finds them in the events. So the two have to tell the same
story, although the counters and the events are kept apart: the failures are
reported in four places of the loop, the duplicates by the registry, and the
merges behind them.

Set by set the story is simple, and `Reports` has a rule for each of its two
endings. A set that failed is one warning, with its name and its path. A set
that came is the warnings of its duplicates and then one event with its
counts. What the extractor reports of a set stands before that and is left
alone. `Progress.step_reports` finds one round of the loop to follow these
rules, and `Progress.foldl_reports` adds the rounds up; what is then left is
to count events in the report of a single set.
-/

namespace Explainer

namespace Event

/-- Whether the event is logged with the given level and wording. -/
def isLogged (level : Level) (message : String) (e : Event) : Bool :=
  e.level = level && e.message = message

def isReplacement : Event → Bool := isLogged .warn "duplicate error template replaced"

def isRejection : Event → Bool := isLogged .warn "duplicate error template rejected"

/-- Whether the event reports one of two templates of a type. -/
def isDuplicate (e : Event) : Bool := e.isReplacement || e.isRejection

def isMerge : Event → Bool := isLogged .debug "merged template set"

/-- The counts that the report of a merge has. -/
def counts? : Event → Option MergeStats
  | .setMerged _ _ added replaced rejected => some ⟨added, replaced, rejected⟩
  | _ => none

/-- The reports of duplicates are warnings of two kinds, and have no counts. -/
theorem isDuplicate_cases {e : Event} (h : e.isDuplicate = true) :
    e.level = .warn ∧ e.isRejection = !e.isReplacement ∧ e.isMerge = false ∧ e.counts? = none := by
  cases e <;> first | cases h; done | exact ⟨rfl, rfl, rfl, rfl⟩

end Event

/-! ## Warnings of duplicates -/

/-- The warnings are those of duplicates, as many of each kind as are counted. -/
structure MergeStats.Warned (counts : MergeStats) (warnings : List Event) : Prop where
  duplicates : ∀ e ∈ warnings, e.isDuplicate = true
  replaced_eq : warnings.countP Event.isReplacement = counts.replaced
  rejected_eq : warnings.countP Event.isRejection = counts.rejected

namespace MergeStats.Warned

variable {counts counts' : MergeStats} {warnings warnings' : List Event}

theorem append (h : counts.Warned warnings) (h' : counts'.Warned warnings') :
    (counts + counts').Warned (warnings ++ warnings') := by
  refine ⟨?_, ?_, ?_⟩
  · intro e he
    rcases List.mem_append.mp he with he | he
    · exact h.duplicates e he
    · exact h'.duplicates e he
  · rw [List.countP_append, h.replaced_eq, h'.replaced_eq, replaced_add]
  · rw [List.countP_append, h.rejected_eq, h'.rejected_eq, rejected_add]

/-- No duplicate is reported in both ways, so the two kinds are all warnings. -/
theorem length_eq (h : counts.Warned warnings) :
    warnings.length = counts.replaced + counts.rejected := by
  have hother : warnings.countP (fun e => ¬ e.isReplacement = true)
      = warnings.countP Event.isRejection := by
    refine List.countP_congr fun e he => ?_
    rw [(Event.isDuplicate_cases (h.duplicates e he)).2.1]
    simp
  have hsplit := List.length_eq_countP_add_countP Event.isReplacement (l := warnings)
  rw [hother, h.replaced_eq, h.rejected_eq] at hsplit
  exact hsplit

theorem countP_warn (h : counts.Warned warnings) :
    warnings.countP (·.level = .warn) = counts.replaced + counts.rejected := by
  rw [← h.length_eq, List.countP_eq_length]
  intro e he
  exact decide_eq_true (Event.isDuplicate_cases (h.duplicates e he)).1

theorem countP_other (h : counts.Warned warnings) :
    warnings.countP (fun e => e.level = .warn && !e.isDuplicate) = 0 := by
  rw [List.countP_eq_zero]
  intro e he
  simp [h.duplicates e he]

theorem countP_isMerge (h : counts.Warned warnings) : warnings.countP Event.isMerge = 0 := by
  rw [List.countP_eq_zero]
  intro e he
  simp [(Event.isDuplicate_cases (h.duplicates e he)).2.2.1]

theorem filterMap_counts? (h : counts.Warned warnings) :
    warnings.filterMap Event.counts? = [] := by
  rw [List.filterMap_eq_nil_iff]
  intro e he
  exact (Event.isDuplicate_cases (h.duplicates e he)).2.2.2

end MergeStats.Warned

namespace Registry

theorem warned_insertEvents (r : Registry) (t : MessageTemplate) :
    (MergeStats.ofOutcome (r.outcome t)).Warned (r.insertEvents t) := by
  unfold insertEvents outcome
  cases r.get? t.type with
  | none => exact ⟨List.forall_mem_nil _, rfl, rfl⟩
  | some previous =>
      cases r.policy with
      | lastWins | reject => exact ⟨List.forall_mem_singleton.mpr rfl, rfl, rfl⟩

theorem warned_extendEvents (r : Registry) (batch : List MessageTemplate) :
    (r.extendStats batch).Warned (r.extendEvents batch) := by
  induction batch generalizing r with
  | nil => exact ⟨List.forall_mem_nil _, rfl, rfl⟩
  | cons t rest ih =>
      rw [extendStats_cons, extendEvents]
      exact (r.warned_insertEvents t).append (ih (r.insert t))

theorem total_extendStats (r : Registry) (batch : List MessageTemplate) :
    (r.extendStats batch).total = batch.length := by
  rw [extendStats_eq_ofOutcomes, MergeStats.total_ofOutcomes, length_outcomes]

end Registry

namespace Load

/-! ## The report of one set -/

/-- What the extractor reports when a load gives it a set to read. -/
def Extractor.eventsOf (x : Extractor) : Text × Settled Answer → List Event
  | (name, .finished (.ok text)) => x.events name text
  | _ => []

/-- What a load reports of one set, apart from what the extractor reports. -/
inductive Reports (x : Extractor) (base : Text) : Text × Settled Answer → List Event → Prop
  | failed {name : Text} {outcome : Settled Answer} {e : Event}
      (hnone : x.contribution? name outcome = none)
      (hlevel : e.level = .warn) (hdup : e.isDuplicate = false)
      (hset : ("set", .text name) ∈ e.facts)
      (hpath : ("path", .text (base ++ "errors.".toList ++ name ++ ".html".toList)) ∈ e.facts) :
      Reports x base (name, outcome) [e]
  | merged {name : Text} {outcome : Settled Answer} {found : List MessageTemplate}
      {counts : MergeStats} {warnings : List Event}
      (hsome : x.contribution? name outcome = some found) (hwarned : counts.Warned warnings)
      (hfound : found.length = counts.added + counts.replaced + counts.rejected) :
      Reports x base (name, outcome)
        (warnings ++ [.setMerged name found.length counts.added counts.replaced counts.rejected])

/-- The events of sets one after the other: of each those of the extractor, and then those of the
load itself. -/
inductive Logged (x : Extractor) (base : Text) :
    List (Text × Settled Answer) → List (List Event) → List Event → Prop
  | nil : Logged x base [] [] []
  | cons {set : Text × Settled Answer} {sets : List (Text × Settled Answer)}
      {report : List Event} {reports : List (List Event)} {events : List Event}
      (hreport : Reports x base set report) (hrest : Logged x base sets reports events) :
      Logged x base (set :: sets) (report :: reports) (x.eventsOf set ++ report ++ events)

variable {x : Extractor} {base : Text}

/-- What can be counted in the report of one set. -/
theorem Reports.counts {set : Text × Settled Answer} {report : List Event}
    (h : Reports x base set report) :
    let failures := if (x.contribution? set.1 set.2).isNone then 1 else 0
    let merged := MergeStats.sum (report.filterMap Event.counts?)
    report.countP (·.level = .warn) = failures + merged.replaced + merged.rejected ∧
      report.countP (fun e => e.level = .warn && !e.isDuplicate) = failures ∧
      report.countP Event.isMerge + failures = 1 := by
  cases h with
  | @failed name outcome e hnone hlevel hdup hset hpath =>
      have hcounts : e.counts? = none := by cases e <;> first | rfl | cases hlevel
      have hmerge : e.isMerge = false := by simp [Event.isMerge, Event.isLogged, hlevel]
      simp [hnone, hlevel, hdup, hcounts, hmerge, MergeStats.sum, MergeStats.zero]
  | @merged name outcome found counts warnings hsome hwarned hfound =>
      have hlast : ∀ c : MergeStats, MergeStats.sum [c] = c := fun c => rfl
      simp only [hsome, List.countP_append, List.filterMap_append, hwarned.countP_warn,
        hwarned.countP_other, hwarned.countP_isMerge, hwarned.filterMap_counts?]
      refine ⟨?_, rfl, rfl⟩
      show counts.replaced + counts.rejected + 0 = 0 + counts.replaced + counts.rejected
      omega

/-! ## The merge loop -/

theorem snd_templatesOf (x : Extractor) (timeout : Option Nat) (q : Request)
    (s : Settled Answer) : (templatesOf x timeout q s).2 = x.eventsOf (q.name, s) := by
  cases s with
  | timedOut | lost => rfl
  | finished answer =>
      cases answer with
      | error e => rfl
      | ok text =>
          simp only [templatesOf, fetched, Extractor.eventsOf]
          cases x.extract q.name text <;> rfl

/-- Whatever keeps the templates of a set back is a warning that names the set and its path. -/
theorem warning_of_templatesOf {timeout : Option Nat} {q : Request} {s : Settled Answer} {e : Event}
    (h : (templatesOf x timeout q s).1 = .error e) :
    e.level = .warn ∧ e.isDuplicate = false ∧ ("set", .text q.name) ∈ e.facts ∧
      ("path", .text q.path) ∈ e.facts := by
  have hcases : e = .fetchAborted q.name q.path ∨ ∃ reason,
      e = .fetchFailed q.name q.path reason ∨ e = .extractFailed q.name q.path reason := by
    cases s with
    | lost => cases h; exact .inl rfl
    | timedOut => cases h; exact .inr ⟨_, .inl rfl⟩
    | finished answer =>
        cases answer with
        | error cause => cases h; exact .inr ⟨_, .inl rfl⟩
        | ok text =>
            simp only [templatesOf, fetched] at h
            split at h
            · cases h
            · cases h; exact .inr ⟨_, .inr rfl⟩
  rcases hcases with rfl | ⟨reason, rfl | rfl⟩
  all_goals exact ⟨rfl, rfl, List.mem_cons_self, List.mem_cons_of_mem _ List.mem_cons_self⟩

/-- One round of the loop reports its set by the rules, and counts what it reports. -/
theorem Progress.step_reports (x : Extractor) (timeout : Option Nat) (p : Progress)
    (base name : Text) (s : Settled Answer) :
    ∃ report, Reports x base (name, s) report ∧
      (p.step x timeout (.of base name, s)).events
        = p.events ++ (x.eventsOf (name, s) ++ report) ∧
      (p.step x timeout (.of base name, s)).merged
        = p.merged + MergeStats.sum (report.filterMap Event.counts?) := by
  have hevents := snd_templatesOf x timeout (.of base name) s
  have hout := toOption_templatesOf x timeout (.of base name) s
  simp only [step]
  cases htemplates : (templatesOf x timeout (.of base name) s).1 with
  | error e =>
      obtain ⟨hlevel, hdup, hset, hpath⟩ := warning_of_templatesOf htemplates
      have hcounts : e.counts? = none := by cases e <;> first | rfl | cases hlevel
      rw [htemplates] at hout
      refine ⟨[e], .failed hout.symm hlevel hdup hset hpath, ?_, ?_⟩
      · rw [hevents, ← List.append_assoc]
        rfl
      · simp only [List.filterMap_cons, hcounts]
        rfl
  | ok ts =>
      have hwarned := p.registry.warned_extendEvents ts
      have htotal := p.registry.total_extendStats ts
      rw [htemplates] at hout
      refine ⟨_, .merged hout.symm hwarned htotal.symm, ?_, ?_⟩
      · rw [hevents, ← List.append_assoc, ← List.append_assoc]
        rfl
      · rw [List.filterMap_append, hwarned.filterMap_counts?]
        rfl

/-- The rounds one after the other. -/
theorem Progress.foldl_reports (x : Extractor) (timeout : Option Nat) (base : Text)
    (sets : List (Text × Settled Answer)) :
    ∀ p : Progress, ∃ reports events, Logged x base sets reports events ∧
      let p' := (sets.map fun set => (Request.of base set.1, set.2)).foldl (step x timeout) p
      p'.events = p.events ++ events ∧
        p'.merged = p.merged + MergeStats.sum (reports.flatten.filterMap Event.counts?) := by
  induction sets with
  | nil =>
      intro p
      exact ⟨[], [], .nil, (List.append_nil _).symm, (MergeStats.add_zero _).symm⟩
  | cons set rest ih =>
      intro p
      obtain ⟨name, s⟩ := set
      obtain ⟨report, hreport, hevents, hmerged⟩ := step_reports x timeout p base name s
      obtain ⟨reports, events, hlog, hevents', hmerged'⟩ := ih (p.step x timeout (.of base name, s))
      refine ⟨report :: reports, _, .cons hreport hlog, ?_, ?_⟩
      · rw [List.map_cons, List.foldl_cons, hevents', hevents, List.append_assoc]
      · rw [List.map_cons, List.foldl_cons, hmerged', hmerged, List.flatten_cons,
          List.filterMap_append, MergeStats.sum_append, MergeStats.add_assoc]

/-! ## The load -/

/-- The counts of what is reported, over all sets. -/
theorem Logged.counts {sets : List (Text × Settled Answer)} {reports : List (List Event)}
    {events : List Event} (h : Logged x base sets reports events) :
    let failures := (x.contributions sets).countP Option.isNone
    let merged := MergeStats.sum (reports.flatten.filterMap Event.counts?)
    reports.flatten.countP (·.level = .warn) = failures + merged.replaced + merged.rejected ∧
      reports.flatten.countP (fun e => e.level = .warn && !e.isDuplicate) = failures ∧
      reports.flatten.countP Event.isMerge + failures = sets.length := by
  induction h with
  | nil => exact ⟨rfl, rfl, rfl⟩
  | @cons set sets report reports events hreport hrest ih =>
      obtain ⟨hwarn, hother, hmerge⟩ := hreport.counts
      obtain ⟨hwarns, hothers, hmerges⟩ := ih
      have hfailures : (x.contributions (set :: sets)).countP Option.isNone
          = (if (x.contribution? set.1 set.2).isNone then 1 else 0)
            + (x.contributions sets).countP Option.isNone := by
        rw [Nat.add_comm]
        exact List.countP_cons
      simp only [List.flatten_cons, List.countP_append, List.filterMap_append,
        MergeStats.sum_append, MergeStats.replaced_add, MergeStats.rejected_add, hfailures,
        List.length_cons]
      omega

/-- What a load reports against its result. `reports` has what it reports of each set, apart from
the events of the extractor. -/
structure Loaded.Reconciles (loaded : Loaded) (x : Extractor) (base : Text)
    (sets : List (Text × Settled Answer)) (reports : List (List Event)) : Prop where
  logged : Logged x base sets reports loaded.events
  failed_eq : loaded.failed = (x.contributions sets).countP Option.isNone
  warnings_eq : reports.flatten.countP (·.level = .warn)
    = loaded.failed + loaded.merged.replaced + loaded.merged.rejected
  failures_eq : reports.flatten.countP (fun e => e.level = .warn && !e.isDuplicate)
    = loaded.failed
  merges_eq : reports.flatten.countP Event.isMerge + loaded.failed = sets.length
  counts_eq : MergeStats.sum (reports.flatten.filterMap Event.counts?) = loaded.merged

theorem Loaded.of_result (loaded : Loaded) {p : Progress} {n : Nat}
    (h : loaded.result = p.result n) : loaded.failed = p.failed ∧ loaded.merged = p.merged := by
  rw [failed, merged]
  by_cases hfailed : 0 < p.failed
  · rw [h, Progress.result, if_pos hfailed]
    exact ⟨rfl, rfl⟩
  · rw [h, Progress.result, if_neg hfailed]
    exact ⟨(Nat.eq_zero_of_not_pos hfailed).symm, rfl⟩

theorem mergeAll_reconciles (x : Extractor) (timeout : Option Nat) (r : Registry) (base : Text)
    (sets : List (Text × Settled Answer)) :
    ∃ reports, (mergeAll x timeout r
      (sets.map fun set => (Request.of base set.1, set.2))).Reconciles x base sets reports := by
  let requests := sets.map fun set => (Request.of base set.1, set.2)
  have hnamed : requests.map Progress.named = sets := by
    rw [List.map_map]
    exact List.map_id _
  obtain ⟨reports, events, hlog, hevents, hmerged⟩ :=
    Progress.foldl_reports x timeout base sets (.start r)
  obtain ⟨-, -, hfailed⟩ := Progress.foldl_step x timeout requests (.start r)
  obtain ⟨hwarn, hother, hmerge⟩ := hlog.counts
  obtain ⟨hfail, hcounts⟩ :=
    Loaded.of_result (mergeAll x timeout r requests) (p := requests.foldl _ _) rfl
  rw [hnamed, show (Progress.start r).failed = 0 from rfl, Nat.zero_add] at hfailed
  rw [show (Progress.start r).merged = .zero from rfl, MergeStats.zero_add] at hmerged
  rw [show (Progress.start r).events = [] from rfl, List.nil_append] at hevents
  subst hevents
  rw [hfailed] at hfail
  rw [hmerged] at hcounts
  rw [← hcounts, ← hfail] at hwarn
  rw [← hfail] at hother hmerge
  exact ⟨reports, hlog, hfail, hwarn, hother, hmerge, hcounts.symm⟩

namespace Loader

theorem loadWith?_reconciles (l : Loader) (r : Registry) (base : Text) {fetches : List Start}
    (hlabels : ∀ s ∈ fetches, '\x00' ∉ s.label) (hstarted : ∀ s ∈ fetches, s.refusal = none)
    (signals : List (Signal Answer)) :
    ∃ settled loaded reports, joinLabelled? fetches signals = some settled ∧
      settled.length = fetches.length ∧ l.loadWith? r base fetches signals = some loaded ∧
      loaded.Reconciles l.extractor base ((fetches.map (·.label)).zip settled) reports := by
  have hjoin : joinLabelled? fetches signals ≠ none := by
    intro hnone
    obtain ⟨s, hs, hnul⟩ := joinLabelled?_eq_none_iff.mp hnone
    exact hlabels s hs hnul
  obtain ⟨settled, hsettled⟩ := Option.ne_none_iff_exists'.mp hjoin
  have hlength : settled.length = fetches.length := by
    rw [joinLabelled?] at hsettled
    split at hsettled
    · cases hsettled
      rw [length_join, List.length_map]
    · cases hsettled
  have hrequests : (fetches.map fun s => Request.of base s.label).zip settled
      = ((fetches.map (·.label)).zip settled).map fun set => (Request.of base set.1, set.2) := by
    rw [List.zip_map_left, List.zip_map_left, List.map_map]
    rfl
  have hsilent : fetches.filterMap (·.event?) = [] := by
    rw [List.filterMap_eq_nil_iff]
    intro s hs
    rw [Start.event?, hstarted s hs, Option.map_none]
  obtain ⟨reports, h⟩ := mergeAll_reconciles l.extractor l.timeout r base
    ((fetches.map (·.label)).zip settled)
  refine ⟨settled, _, reports, hsettled, hlength, ?_, h⟩
  rw [loadWith?, hsettled, Option.map_some, hrequests, hsilent]
  rfl

/-- The events of a load tell what its result says. This is for loads all of whose fetches can be
started, with any answer to each of them, and the load of a source is one of these if it does not
wait in vain. What the extractor reports is left aside. -/
theorem load_reconciles (l : Loader) (r : Registry) (base : Text) :
    (∀ (fetches : List Start) (signals : List (Signal Answer)),
      (∀ s ∈ fetches, '\x00' ∉ s.label) → (∀ s ∈ fetches, s.refusal = none) →
      ∃ settled loaded reports, joinLabelled? fetches signals = some settled ∧
        settled.length = fetches.length ∧ l.loadWith? r base fetches signals = some loaded ∧
        loaded.Reconciles l.extractor base ((fetches.map (·.label)).zip settled) reports) ∧
    ∀ names : List Text, (∀ n ∈ names, '\x00' ∉ n) →
      (∀ n ∈ names, (l.source (setPath base n)).fate.isStarted = true) →
      l.timeout.isSome = true ∨ .hangs ∉ (l.fetches base names).map Prod.snd →
      ∃ settled loaded reports, settled.length = names.length ∧
        l.load? r base names = some loaded ∧
        loaded.Reconciles l.extractor base (names.zip settled) reports := by
  refine ⟨fun fetches signals hlabels hstarted =>
    l.loadWith?_reconciles r base hlabels hstarted signals, fun names hnames hstarted hends => ?_⟩
  have hlabels : ∀ s ∈ starts (l.fetches base names), '\x00' ∉ s.label :=
    List.forall_mem_map.mpr (List.forall_mem_map.mpr hnames)
  have hrefusals : ∀ s ∈ starts (l.fetches base names), s.refusal = none :=
    List.forall_mem_map.mpr (List.forall_mem_map.mpr fun n hn =>
      Option.isNone_iff_eq_none.mp (hstarted n hn))
  have hlabel : (starts (l.fetches base names)).map (·.label) = names := by
    rw [starts, fetches, List.map_map, List.map_map]
    exact List.map_id _
  obtain ⟨settled, loaded, reports, -, hlength, hload, h⟩ :=
    l.loadWith?_reconciles r base hlabels hrefusals (signalsOf l.timeout (l.courses base names))
  rw [hlabel] at h
  rw [starts, fetches, List.length_map, List.length_map] at hlength
  exact ⟨settled, loaded, reports, hlength, (l.load?_eq_loadWith? r base names hends).trans hload,
    h⟩

/-- One set comes, with two duplicates; one is lost, one is late, and one cannot be read. -/
theorem load_reconciles_mixed :
    let l : Loader := ⟨fun _ => ⟨0, .hangs⟩, .lines, some 5⟩
    let r : Registry := (Registry.empty .lastWins).put ⟨"T".toList, "old".toList, none⟩
    let fetches : List Start := [⟨['a'], none⟩, ⟨['b'], none⟩, ⟨['c'], none⟩, ⟨['d'], none⟩]
    let signals : List (Signal Answer) :=
      [.report 3 (.finished (.ok ['!'])), .report 1 .lost,
        .report 0 (.finished (.ok "T|one\nU|two\nU|three".toList)), .deadline]
    (∀ s ∈ fetches, '\x00' ∉ s.label) ∧ (∀ s ∈ fetches, s.refusal = none) ∧
      ∃ settled loaded reports, l.loadWith? r "tips/".toList fetches signals = some loaded ∧
        loaded.Reconciles l.extractor "tips/".toList ((fetches.map (·.label)).zip settled)
          reports ∧
        loaded.result = .error ⟨3, 4, ⟨1, 2, 0⟩⟩ ∧
        loaded.events.map (·.message) = ["duplicate error template replaced",
          "duplicate error template replaced", "merged template set", "template fetch aborted",
          "template set failed to load", "template set failed to parse"] := by
  intro l r fetches signals
  have hlabels : ∀ s ∈ fetches, '\x00' ∉ s.label := by decide
  have hstarted : ∀ s ∈ fetches, s.refusal = none := by decide
  obtain ⟨settled, loaded, reports, -, -, hload, h⟩ :=
    (load_reconciles l r "tips/".toList).1 fetches signals hlabels hstarted
  have hvalue : (l.loadWith? r "tips/".toList fetches signals).map
      (fun loaded => (loaded.result, loaded.events.map (·.message)))
      = some (.error ⟨3, 4, ⟨1, 2, 0⟩⟩, ["duplicate error template replaced",
        "duplicate error template replaced", "merged template set", "template fetch aborted",
        "template set failed to load", "template set failed to parse"]) := by decide +kernel
  rw [hload, Option.map_some, Option.some.injEq, Prod.mk.injEq] at hvalue
  exact ⟨hlabels, hstarted, settled, loaded, reports, hload, h, hvalue⟩

end Loader

end Load

end Explainer
