import Explainer.Proofs.RegistryHistory
import Explainer.Renderer

/-!
# A list in place of a registry

A renderer that is given a list of templates takes the first of a type. That
is also what a registry holds to which the list was offered, as long as the
policy and the order of the offers fit each other: a registry that refuses
duplicates keeps the first offer, and one that replaces them keeps the last,
so that it has to be offered the list backwards.

Nothing but the look-up of one type stands between a source of templates and a
message, whatever the engine. So sources that look up alike cannot be told
apart by messages, panes or errors (`TemplateSource.Agree.interchangeable`).
-/

namespace Explainer

namespace TemplateSource

/-- The same template is found for every type. -/
def Agree (a b : TemplateSource) : Prop := ∀ type, a.lookup? type = b.lookup? type

/-- Two sources that cannot be told apart by what is explained from them. -/
structure Interchangeable (a b : TemplateSource) : Prop where
  lookup?_eq : ∀ type, a.lookup? type = b.lookup? type
  explain_eq : ∀ (engine : Engine) (delimiters : Template.Delimiters) (record : ErrorRecord),
    engine.explain delimiters a record = engine.explain delimiters b record
  fill_eq : ∀ (engine : Engine) (delimiters : Template.Delimiters) (record : ErrorRecord)
    (pane : Pane), (engine.explain delimiters a record).fill pane
      = (engine.explain delimiters b record).fill pane

variable {a b : TemplateSource}

theorem Agree.interchangeable (h : a.Agree b) : a.Interchangeable b := by
  have hexplain (engine : Engine) (delimiters : Template.Delimiters) (record : ErrorRecord) :
      engine.explain delimiters a record = engine.explain delimiters b record := by
    rw [Engine.explain, Engine.explain, h record.kind]
  exact ⟨h, hexplain, fun engine delimiters record pane => by rw [hexplain]⟩

/-! ## Look-ups in a list -/

theorem lookup?_list (templates : List MessageTemplate) (type : Text) :
    (list templates).lookup? type = (templates.filter (·.type = type)).head? :=
  List.head?_filter.symm

theorem lookup?_list_eq_none_iff {templates : List MessageTemplate} {type : Text} :
    (list templates).lookup? type = none ↔ ∀ t ∈ templates, t.type ≠ type := by
  rw [lookup?_list, List.head?_eq_none_iff, Registry.filter_type_eq_nil_iff]

theorem agree_reject (templates : List MessageTemplate) :
    (list templates).Agree (registry ((Registry.empty .reject).extend templates)) := by
  intro type
  rw [lookup?_list]
  exact (Registry.get?_extend (.empty .reject) templates type).symm

/-- What is offered last is what stands first. -/
theorem agree_lastWins (templates : List MessageTemplate) :
    (list templates).Agree (registry ((Registry.empty .lastWins).extend templates.reverse)) := by
  intro type
  have hget := Registry.get?_extend (.empty .lastWins) templates.reverse type
  rw [List.filter_reverse] at hget
  rw [lookup?_list, ← List.getLast?_reverse]
  exact hget.symm

end TemplateSource

/-- That no template is found is reported for one reason only: an engine cannot report it. -/
theorem Engine.explain_eq_notFound_iff {engine : Engine} {delimiters : Template.Delimiters}
    {source : TemplateSource} {record : ErrorRecord} {kind : Text} :
    (engine.explain delimiters source record).result = .error (.templateNotFound kind) ↔
      kind = record.kind ∧ source.lookup? record.kind = none := by
  unfold explain
  cases source.lookup? record.kind with
  | none =>
      rw [Except.error.injEq, ExplainError.templateNotFound.injEq, eq_comm]
      exact (and_iff_left rfl).symm
  | some t =>
      refine ⟨fun h => ?_, fun h => nomatch h.2⟩
      dsimp only at h
      cases hrender : (engine.render t.body record.value delimiters).result with
      | error e =>
          rw [hrender] at h
          cases h
      | ok markup =>
          rw [hrender] at h
          cases h

/-- A list of templates, a registry that was offered it and refuses duplicates, and one that was
offered it backwards and replaces them: all three explain every record alike, with every engine,
and there is no template for a record when the list has none of its kind. -/
theorem list_explains_like_registries (templates : List MessageTemplate) :
    TemplateSource.Interchangeable (.list templates)
      (.registry ((Registry.empty .reject).extend templates)) ∧
    TemplateSource.Interchangeable (.list templates)
      (.registry ((Registry.empty .lastWins).extend templates.reverse)) ∧
    ∀ (engine : Engine) (delimiters : Template.Delimiters) (record : ErrorRecord) (kind : Text),
      (engine.explain delimiters (.list templates) record).result
          = .error (.templateNotFound kind) ↔
        kind = record.kind ∧ ∀ t ∈ templates, t.type ≠ record.kind := by
  refine ⟨(TemplateSource.agree_reject templates).interchangeable,
    (TemplateSource.agree_lastWins templates).interchangeable, ?_⟩
  intro engine delimiters record kind
  rw [Engine.explain_eq_notFound_iff, TemplateSource.lookup?_list_eq_none_iff]

-- Offered forwards, a registry that replaces duplicates has the other one.
example :
    let first : MessageTemplate := ⟨"T".toList, "a".toList, none⟩
    let second : MessageTemplate := ⟨"T".toList, "b".toList, none⟩
    (TemplateSource.list [first, second]).lookup? "T".toList = some first ∧
      ((Registry.empty .lastWins).extend [first, second]).get? "T".toList = some second := by
  decide

end Explainer
