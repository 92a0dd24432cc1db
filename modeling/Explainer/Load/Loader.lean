import Explainer.Load.Source
import Explainer.Registry
import Explainer.Text.Quoted

/-!
# Loading template sets

A load fetches all requested sets together, and then merges those that came, in the order of the
request. A set that cannot be fetched or read contributes nothing and is counted; it does not keep
the others from being merged. Whoever needs to know which sets failed finds that in the events.
-/

namespace Explainer.Load

/-- Why the templates of a set could not be read. -/
inductive ExtractError where
  /-- There is no reader for the set. -/
  | noParser (reason : Text)
  /-- The set cannot be read. -/
  | unparseable (set : Text)
deriving DecidableEq, Repr

/-- The wording of an extraction error. -/
def ExtractError.message : ExtractError → String
  | noParser reason => "markup parser unavailable: " ++ String.ofList reason
  | unparseable set => "template set " ++ quote set ++ " could not be parsed"

/-- How templates are read from a set: its name and text give the templates and what is worth
reporting. -/
structure Extractor where
  extract : Text → Text → Except ExtractError (List MessageTemplate)
  events : Text → Text → List Event

/-- What loads template sets. -/
structure Loader where
  source : Source
  extractor : Extractor
  /-- How long fetches may take, in milliseconds. The deadline is taken to be a time that the clock
  can tell. -/
  timeout : Option Nat

/-- A successful load: how many sets, and what became of their templates. -/
structure LoadSummary where
  sets : Nat
  merged : MergeStats
deriving DecidableEq, Repr

/-- A load in which some sets failed. What came has been merged. -/
structure LoadError where
  failed : Nat
  requested : Nat
  merged : MergeStats
deriving DecidableEq, Repr

def LoadError.message (e : LoadError) : String :=
  "at least one template file did not load (" ++ toString e.failed ++ " of "
    ++ toString e.requested ++ " failed)"

/-- A set that is asked for. -/
structure Request where
  name : Text
  path : Text
deriving DecidableEq, Repr

def Request.of (base name : Text) : Request := ⟨name, setPath base name⟩

/-- What came of the fetch of a set: its text, or the event that reports why there is none. -/
def fetched (timeout : Option Nat) (q : Request) : Settled Answer → Except Event Text
  | .finished (.ok text) => .ok text
  | .finished (.error e) => .error (.fetchFailed q.name q.path e.message.toList)
  | .timedOut =>
    .error (.fetchFailed q.name q.path
      (FetchError.timedOut q.path (timeout.getD 0)).message.toList)
  | .lost => .error (.fetchAborted q.name q.path)

/-- The templates of a set, or the event that reports why there are none; and what reading it
reports beside that. -/
def templatesOf (x : Extractor) (timeout : Option Nat) (q : Request) (s : Settled Answer) :
    Except Event (List MessageTemplate) × List Event :=
  match fetched timeout q s with
  | .error e => (.error e, [])
  | .ok text =>
    match x.extract q.name text with
    | .ok ts => (.ok ts, x.events q.name text)
    | .error e => (.error (.extractFailed q.name q.path e.message.toList), x.events q.name text)

/-- A load under way: the registry so far, what has been merged, how many sets have failed, and
what has been reported. -/
structure Progress where
  registry : Registry
  merged : MergeStats
  failed : Nat
  events : List Event

namespace Progress

/-- Before the first set. -/
def start (r : Registry) : Progress := ⟨r, .zero, 0, []⟩

/-- After the templates of one more set, or its failure. -/
def merge (p : Progress) (set : Text) : Except Event (List MessageTemplate) → Progress
  | .error e => { p with failed := p.failed + 1, events := p.events ++ [e] }
  | .ok ts =>
    let stats := p.registry.extendStats ts
    { registry := p.registry.extend ts
      merged := p.merged + stats
      failed := p.failed
      events := p.events ++ p.registry.extendEvents ts
        ++ [.setMerged set ts.length stats.added stats.replaced stats.rejected] }

/-- After one more requested set. -/
def step (x : Extractor) (timeout : Option Nat) (p : Progress) (q : Request × Settled Answer) :
    Progress :=
  let (outcome, events) := templatesOf x timeout q.1 q.2
  { p with events := p.events ++ events }.merge q.1.name outcome

/-- The result of a load of so many sets. -/
def result (p : Progress) (requested : Nat) : Except LoadError LoadSummary :=
  if 0 < p.failed then .error ⟨p.failed, requested, p.merged⟩ else .ok ⟨requested, p.merged⟩

end Progress

/-- What a load leaves: the registry, its result, and what it reported. -/
structure Loaded where
  registry : Registry
  result : Except LoadError LoadSummary
  events : List Event

/-- Merges the sets of settled fetches, in the order of the requests. -/
def mergeAll (x : Extractor) (timeout : Option Nat) (r : Registry)
    (sets : List (Request × Settled Answer)) : Loaded :=
  let p := sets.foldl (Progress.step x timeout) (.start r)
  ⟨p.registry, p.result sets.length, p.events⟩

namespace Loader

/-- Loads sets into a registry, given how the start of each fetch went and the signals that come
while the fetches are waited for. A fetch has the name of its set as its label. A name that cannot
be a label ends the load before anything is merged, and there is no result. -/
def loadWith? (l : Loader) (r : Registry) (base : Text) (fetches : List Start)
    (signals : List (Signal Answer)) : Option Loaded :=
  (joinLabelled? fetches signals).map fun settled =>
    let loaded := mergeAll l.extractor l.timeout r
      ((fetches.map fun s => Request.of base s.label).zip settled)
    { loaded with events := fetches.filterMap (·.event?) ++ loaded.events }

/-- Loads sets into a registry; `none` if a name cannot be a label, or if the wait for the fetches
does not end. -/
def load? (l : Loader) (r : Registry) (base : Text) (names : List Text) : Option Loaded :=
  let courses := names.map fun n => l.source (setPath base n)
  if waitEnds l.timeout courses then
    l.loadWith? r base (names.map fun n => .of n (l.source (setPath base n)).fate)
      (signalsOf l.timeout courses)
  else none

end Loader

end Explainer.Load
