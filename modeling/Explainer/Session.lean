import Explainer.Config
import Explainer.Markup.Highlight

/-!
# Sessions

A program in use: one registry, one memory of resources, one renderer and one pane, and what can
be done with them. Each action answers, reports events, and leaves the next state. Actions on the
registry leave the pane alone, and actions on the pane leave the registry alone.
-/

namespace Explainer

/-- The state of a program in use. -/
structure Session where
  registry : Registry
  memory : Load.Memory
  renderer : Renderer
  pane : Pane

/-- How a session loads: what takes templates from sets, and how long fetches may take. The source
is the memory of the session. -/
structure LoadPlan where
  extractor : Load.Extractor
  timeout : Option Nat

inductive Action where
  | insert (template : MessageTemplate)
  | extend (batch : List MessageTemplate)
  | lookup (type : Text)
  /-- Sets or disturbs a resource. -/
  | provide (path : Text) (body : Option Text) (disturbance : Option Load.Disturbance)
  | load (plan : LoadPlan) (base : Text) (names : List Text)
  /-- One load for each group of names, all into the registry. -/
  | loadGroups (plan : LoadPlan) (base : Text) (groups : List (List Text))
  /-- Renders a message without showing it. `list` is searched in place of the registry. -/
  | explain (record : ErrorRecord) (list : Option (List MessageTemplate))
  /-- Renders a message and shows it. -/
  | fill (record : ErrorRecord) (list : Option (List MessageTemplate))
  | hide
  | reveal
  | mount (markup : Text)

/-- The result of a load; `none` if a name ended it, or if it never ends. -/
abbrev LoadResult := Option (Except Load.LoadError Load.LoadSummary)

/-- The answer to an action. -/
inductive Reply where
  | done
  | outcome (outcome : Outcome)
  | counts (stats : MergeStats)
  | template (found : Option MessageTemplate)
  | loaded (result : LoadResult)
  | loadedGroups (results : List LoadResult)
  | explained (result : Except ExplainError Text)
  | filled (result : Except ExplainError Text)

/-- What an action leaves. -/
structure Step where
  session : Session
  reply : Reply
  events : List Event

namespace Session

def start (registry : Registry) (renderer : Renderer) : Session :=
  ⟨registry, .empty, renderer, .empty⟩

/-- The start of a session with settings. -/
def ofConfig (c : Config) (delimiters : Template.Delimiters) : Session :=
  start c.registry (c.renderer delimiters)

/-- Where messages are looked for: in the registry unless a list is given. -/
def templates (s : Session) : Option (List MessageTemplate) → TemplateSource
  | none => .registry s.registry
  | some list => .list list

def loader (s : Session) (plan : LoadPlan) : Load.Loader :=
  ⟨s.memory.source, plan.extractor, plan.timeout⟩

/-- Loads sets into the registry. -/
def load (s : Session) (plan : LoadPlan) (base : Text) (names : List Text) :
    Session × LoadResult × List Event :=
  match (s.loader plan).load? s.registry base names with
  | none => (s, none, [])
  | some loaded => ({ s with registry := loaded.registry }, some loaded.result, loaded.events)

/-- Loads groups of sets into the registry, group by group. -/
def loadGroups (s : Session) (plan : LoadPlan) (base : Text) :
    List (List Text) → Session × List LoadResult
  | [] => (s, [])
  | names :: rest =>
    let (s', result, _) := s.load plan base names
    let (s'', results) := s'.loadGroups plan base rest
    (s'', result :: results)

def step (s : Session) : Action → Step
  | .insert t =>
    ⟨{ s with registry := s.registry.insert t }, .outcome (s.registry.outcome t),
      s.registry.insertEvents t⟩
  | .extend ts =>
    ⟨{ s with registry := s.registry.extend ts }, .counts (s.registry.extendStats ts),
      s.registry.extendEvents ts⟩
  | .lookup type => ⟨s, .template (s.registry.get? type), []⟩
  | .provide path body disturbance =>
    ⟨{ s with memory := s.memory.provide path body disturbance }, .done, []⟩
  | .load plan base names =>
    let (s', result, events) := s.load plan base names
    ⟨s', .loaded result, events⟩
  | .loadGroups plan base groups =>
    let (s', results) := s.loadGroups plan base groups
    ⟨s', .loadedGroups results, []⟩
  | .explain record list =>
    let e := s.renderer.explain (s.templates list) record
    ⟨s, .explained e.result, e.events⟩
  | .fill record list =>
    let e := s.renderer.explain (s.templates list) record
    ⟨{ s with pane := s.renderer.fill (s.templates list) record s.pane }, .filled e.result,
      e.events⟩
  | .hide => ⟨{ s with pane := s.pane.hide }, .done, []⟩
  | .reveal => ⟨{ s with pane := s.pane.reveal }, .done, []⟩
  | .mount markup => ⟨{ s with pane := s.pane.mount markup }, .done, []⟩

/-- The session after some actions. -/
def run (s : Session) (actions : List Action) : Session :=
  actions.foldl (fun s a => (s.step a).session) s

end Session

end Explainer
