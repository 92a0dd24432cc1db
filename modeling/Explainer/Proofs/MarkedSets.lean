import Explainer.Proofs.DeclaredTemplates
import Explainer.Proofs.RegistryHistory

/-!
# Which element of which set explains a type

The way from a markup text to a template of the registry is long: elements are
collected, their classes split, doubles dropped, sets fetched together and
merged, and the policy has its say. For one type it is short. An element either
declares the type, and then offers one template of it, or it does not; so what
is offered of a type is `declared`, the elements that declare it, set after set
in the order of the request and within a set in the order of the document. The
policy keeps the last or the first of these. What the elements of a text are is
left to the reader, and a text that it cannot read has none.

Each stage of the way is a list operation, and the argument moves a filter for
the type inwards through them: through the merge (`filter_contributions_markup`), the
elements of a text and the classes of an element. Where there is no deadline a
fetch gives what it brings, whatever else goes wrong, so that a set that fails
takes nothing away from the others.
-/

namespace Explainer

namespace Markup

/-! ## One element, one text -/

/-- Whether an element declares a template of a type. -/
def Element.declares (e : Element) (marker type : Text) : Bool :=
  e.hasClass marker && (e.hasClass type && type ≠ marker)

/-- The template of a type that an element declares. -/
def Element.template (e : Element) (type set source : Text) : MessageTemplate :=
  ⟨type, e.innerMarkup source, some set⟩

theorem Element.declares_iff {e : Element} {marker type : Text} :
    e.declares marker type = true ↔
      e.hasClass marker = true ∧ type ∈ e.classes ∧ type ≠ marker := by
  rw [declares, Bool.and_eq_true, Bool.and_eq_true, decide_eq_true_eq, @hasClass_iff e type]

theorem Element.filter_declaredTypes (e : Element) (marker type : Text) :
    (e.declaredTypes marker).filter (· = type)
      = if type ∈ e.classes ∧ type ≠ marker then [type] else [] := by
  have hdeclared := e.declaredOnce_declaredTypes marker
  rw [List.filter_eq, hdeclared.nodup.count]
  by_cases h : type ∈ e.classes ∧ type ≠ marker
  · rw [if_pos h, if_pos ((hdeclared.mem_iff type).mpr h)]
    rfl
  · rw [if_neg h, if_neg (mt (hdeclared.mem_iff type).mp h)]
    rfl

/-- Of one type an element offers one template or none, however often it has the class. -/
theorem Element.filter_templates (e : Element) (marker set source type : Text) :
    (e.templates marker set source).filter (·.type = type)
      = if e.declares marker type then [e.template type set source] else [] := by
  rw [templates]
  by_cases hmarked : e.hasClass marker = true
  · have hdeclares : e.declares marker type = true ↔ type ∈ e.classes ∧ type ≠ marker := by
      rw [declares_iff, and_iff_right hmarked]
    rw [if_pos hmarked, List.filter_map]
    show ((e.declaredTypes marker).filter (· = type)).map _ = _
    rw [filter_declaredTypes, if_congr hdeclares rfl rfl]
    split <;> rfl
  · rw [if_neg hmarked, if_neg fun h => hmarked (declares_iff.mp h).1, List.filter_nil]

theorem Fragment.filter_templates (f : Fragment) (marker set type : Text) :
    (f.templates marker set).filter (·.type = type)
      = (f.elements.filter (·.declares marker type)).map (·.template type set f.source) := by
  rw [templates, List.filter_flatMap]
  simp only [Element.filter_templates]
  induction f.elements with
  | nil => rfl
  | cons e rest ih =>
      rw [List.flatMap_cons, ih, List.filter_cons]
      cases e.declares marker type <;> rfl

end Markup

namespace Load

/-! ## Sets -/

/-- The text that a fetch brings, if it brings one. -/
def Fate.text? : Fate Answer → Option Text
  | .returns (.ok text) => some text
  | _ => none

/-- The elements of a text; none if it cannot be read. -/
def elementsIn (reader : Markup.Reader) (text : Text) : List Markup.Element :=
  match reader.read text with
  | .ok f => f.elements
  | .error _ => []

theorem mem_elementsIn_iff {reader : Markup.Reader} {text : Text} {e : Markup.Element} :
    e ∈ elementsIn reader text ↔ ∃ f, reader.read text = .ok f ∧ e ∈ f.elements := by
  rw [elementsIn]
  cases reader.read text with
  | ok f => simp
  | error cause => simp

/-- The templates of a type that sets declare, given their names and the texts of those that came,
in the order of the sets and then of the elements. -/
def declared (reader : Markup.Reader) (marker type : Text) (sets : List (Text × Option Text)) :
    List MessageTemplate :=
  sets.flatMap fun (name, text?) => text?.toList.flatMap fun text =>
    ((elementsIn reader text).filter (·.declares marker type)).map (·.template type name text)

/-- A type is declared by an element that has the marker and the type as classes, in a set that
came and could be read. -/
theorem declared_ne_nil_iff {reader : Markup.Reader} {marker type : Text}
    {sets : List (Text × Option Text)} :
    declared reader marker type sets ≠ [] ↔
      ∃ name text f, (name, some text) ∈ sets ∧ reader.read text = .ok f ∧
        ∃ e ∈ f.elements, e.hasClass marker = true ∧ type ∈ e.classes ∧ type ≠ marker := by
  constructor
  · intro hne
    obtain ⟨t, ht⟩ := List.exists_mem_of_ne_nil _ hne
    obtain ⟨⟨name, text?⟩, hset, ht⟩ := List.mem_flatMap.mp ht
    obtain ⟨text, htext, ht⟩ := List.mem_flatMap.mp ht
    obtain ⟨e, he, -⟩ := List.mem_map.mp ht
    obtain ⟨hmem, hdeclares⟩ := List.mem_filter.mp he
    obtain ⟨f, hf, hmem⟩ := mem_elementsIn_iff.mp hmem
    obtain rfl : text? = some text := Option.mem_toList.mp htext
    exact ⟨name, text, f, hset, hf, e, hmem, Markup.Element.declares_iff.mp hdeclares⟩
  · rintro ⟨name, text, f, hset, hf, e, hmem, hdeclares⟩
    have he : e ∈ (elementsIn reader text).filter (·.declares marker type) :=
      List.mem_filter.mpr ⟨mem_elementsIn_iff.mpr ⟨f, hf, hmem⟩,
        Markup.Element.declares_iff.mpr hdeclares⟩
    refine List.ne_nil_of_mem (a := e.template type name text) (List.mem_flatMap.mpr ⟨_, hset, ?_⟩)
    exact List.mem_flatMap.mpr ⟨text, Option.mem_toList.mpr rfl, List.mem_map_of_mem he⟩

/-- What a set contributes: nothing if it did not come or could not be read. -/
theorem contribution?_markup (reader : Markup.Reader) (marker name : Text) (f : Fate Answer) :
    (Extractor.markup reader marker).contribution? name (f.settled true)
      = f.text?.bind fun text => (reader.templates marker name text).toOption := by
  cases f with
  | refused reason | fails | hangs => rfl
  | returns answer =>
      cases answer with
      | error e => rfl
      | ok text =>
          show ((reader.templates marker name text).mapError (ExtractError.ofMarkup name)).toOption
            = (reader.templates marker name text).toOption
          cases reader.templates marker name text <;> rfl

theorem filter_templates_reader (reader : Markup.Reader) (marker set text type : Text) :
    ((reader.templates marker set text).toOption.getD []).filter (·.type = type)
      = ((elementsIn reader text).filter (·.declares marker type)).map
          (·.template type set text) := by
  rw [Markup.Reader.templates, elementsIn]
  cases hread : reader.read text with
  | error cause => rfl
  | ok f =>
      show (f.templates marker set).filter _ = _
      rw [Markup.Fragment.filter_templates, reader.source_eq hread]

theorem filter_contributions_markup (reader : Markup.Reader) (marker type : Text)
    (sets : List (Text × Fate Answer)) :
    ((Extractor.markup reader marker).contributions
        (sets.map fun set => (set.1, set.2.settled true))).reduceOption.flatten.filter
          (·.type = type)
      = declared reader marker type (sets.map fun set => (set.1, set.2.text?)) := by
  induction sets with
  | nil => rfl
  | cons set rest ih =>
      obtain ⟨name, f⟩ := set
      simp only [Extractor.contributions, List.map_cons, contribution?_markup] at ih ⊢
      rw [declared, List.flatMap_cons, ← declared, ← ih]
      cases f.text? with
      | none => rfl
      | some text =>
          have hone := filter_templates_reader reader marker name text type
          simp only [Option.bind_some, Option.toList_some, List.flatMap_cons, List.flatMap_nil,
            List.append_nil, ← hone]
          cases (reader.templates marker name text).toOption with
          | none => rfl
          | some ts =>
              rw [List.reduceOption_cons_of_some, List.flatten_cons, List.filter_append]
              rfl

end Load

/-! ## The load -/

/-- What a registry says when markup sets have been loaded into an empty one, given their names
and the texts of those that came. -/
structure Registry.Resolves (r : Registry) (policy : DuplicatePolicy) (reader : Markup.Reader)
    (marker : Text) (sets : List (Text × Option Text)) : Prop where
  contains_iff : ∀ type, r.contains type = true ↔
    ∃ name text f, (name, some text) ∈ sets ∧ reader.read text = .ok f ∧
      ∃ e ∈ f.elements, e.hasClass marker = true ∧ type ∈ e.classes ∧ type ≠ marker
  get?_eq : ∀ type, r.get? type = policy.kept (Load.declared reader marker type sets)

namespace Load.Loader

variable {reader : Markup.Reader} {sets : List (Text × Fate Answer)} {trace : List (Signal Answer)}
  {g : Group Answer}

theorem resolves_sequential (policy : DuplicatePolicy) (reader : Markup.Reader) (marker : Text)
    (sets : List (Text × Fate Answer)) :
    (sequential (.markup reader marker) (.empty policy)
        (sets.map fun set => (set.1, set.2.settled true))).1.Resolves policy reader marker
      (sets.map fun set => (set.1, set.2.text?)) := by
  have hreflects := Registry.reflects_extend policy ((Extractor.markup reader marker).contributions
    (sets.map fun set => (set.1, set.2.settled true))).reduceOption.flatten
  have hget (type : Text) := (hreflects.get?_eq type).trans
    (congrArg policy.kept (filter_contributions_markup reader marker type sets))
  refine ⟨fun type => ?_, hget⟩
  rw [Registry.contains, Option.isSome_iff_ne_none, ← declared_ne_nil_iff, ne_eq, ne_eq,
    ← @DuplicatePolicy.kept_eq_none_iff policy, ← hget]
  rfl

theorem loadWith?_resolves (policy : DuplicatePolicy) (source : Source) (base marker : Text)
    (hnames : ∀ set ∈ sets, '\x00' ∉ set.1)
    (h : Group.Run (sets.map Prod.snd) false trace g) (hexit : g.exit ≠ none)
    (late : List (Signal Answer)) :
    ∃ loaded, Loader.loadWith? ⟨source, .markup reader marker, none⟩ (.empty policy) base
        (starts sets) (trace ++ late) = some loaded ∧
      loaded.registry.Resolves policy reader marker
        (sets.map fun set => (set.1, set.2.text?)) := by
  have hload := loadWith?_of_run ⟨source, .markup reader marker, none⟩ (.empty policy) base hnames h
    hexit late
  obtain ⟨loaded, hsome, houtcome⟩ := Option.map_eq_some_iff.mp hload
  refine ⟨loaded, hsome, ?_⟩
  rw [show loaded.registry = loaded.outcome.1 from rfl, houtcome, outcomes_of_unlimited h hexit]
  exact resolves_sequential policy reader marker sets

/-- A memory without disturbances brings what it holds, and keeps nobody waiting. -/
theorem text?_memory (resources : Members Text) (path : Text) :
    ((Memory.source ⟨resources, []⟩ path).fate).text? = Members.find? path resources ∧
      (Memory.source ⟨resources, []⟩ path).fate ≠ .hangs := by
  simp only [Memory.source, Memory.answer, Members.find?_nil]
  cases Members.find? path resources <;> exact ⟨rfl, nofun⟩

/-- A type is explained by the last or the first of the elements that declare it, in the sets that
came and could be read, whatever the load reports about the others. This is so for the load of a
memory, and for fetches under any schedule, of which some may not even have been started. -/
theorem load_resolves_markup (policy : DuplicatePolicy) (reader : Markup.Reader)
    (resources : Members Text) (base marker : Text) :
    (∀ names : List Text, (∀ n ∈ names, '\x00' ∉ n) →
      ∃ loaded, Loader.load? ⟨Memory.source ⟨resources, []⟩, .markup reader marker, none⟩
          (.empty policy) base names = some loaded ∧
        loaded.registry.Resolves policy reader marker
          (names.map fun n => (n, Members.find? (setPath base n) resources))) ∧
    (∀ sets : List (Text × Fate Answer), (∀ set ∈ sets, '\x00' ∉ set.1) →
      ∀ trace g, Group.Run (sets.map Prod.snd) false trace g → g.exit ≠ none → ∀ late,
        ∃ loaded, Loader.loadWith? ⟨Memory.source ⟨resources, []⟩, .markup reader marker, none⟩
            (.empty policy) base (starts sets) (trace ++ late) = some loaded ∧
          loaded.registry.Resolves policy reader marker
            (sets.map fun set => (set.1, set.2.text?))) := by
  refine ⟨fun names hnames => ?_, fun sets hnames trace g h hexit late =>
    loadWith?_resolves policy _ base marker hnames h hexit late⟩
  let l : Loader := ⟨Memory.source ⟨resources, []⟩, .markup reader marker, none⟩
  have hends : .hangs ∉ (l.fetches base names).map Prod.snd := by
    intro hmem
    obtain ⟨⟨n, f⟩, hset, rfl⟩ := List.mem_map.mp hmem
    obtain ⟨n, -, heq⟩ := List.mem_map.mp hset
    exact (text?_memory resources (setPath base n)).2 (congrArg Prod.snd heq)
  have hlabels : ∀ set ∈ l.fetches base names, '\x00' ∉ set.1 := by
    intro set hset
    obtain ⟨n, hn, rfl⟩ := List.mem_map.mp hset
    exact hnames n hn
  have htexts : (l.fetches base names).map (fun set => (set.1, set.2.text?))
      = names.map fun n => (n, Members.find? (setPath base n) resources) := by
    rw [fetches, List.map_map]
    exact List.map_congr_left fun n _ => congrArg (Prod.mk n) (text?_memory resources _).1
  obtain ⟨trace, late, g, h, hexit, hload⟩ :=
    l.exists_run_load? (.empty policy) base names (.inr hends)
  rw [hload, ← htexts]
  exact loadWith?_resolves policy _ base marker hlabels h hexit late

/-- The tree of a paragraph of one letter, with a class attribute of seven. -/
def paragraph : Markup.Node :=
  .mk .document ⟨0, 24⟩ [.mk .element ⟨0, 24⟩
    [.mk .startTag ⟨0, 19⟩
      [.mk .tagOpen ⟨0, 1⟩ [], .mk .tagName ⟨1, 2⟩ [],
      .mk .attr ⟨3, 18⟩
        [.mk .attributeName ⟨3, 8⟩ [], .mk .mark ⟨8, 9⟩ [],
        .mk .quotedValue ⟨9, 18⟩
          [.mk .mark ⟨9, 10⟩ [], .mk .attributeValue ⟨10, 17⟩ [], .mk .mark ⟨17, 18⟩ []]],
      .mk .close ⟨18, 19⟩ []],
    .mk .text ⟨19, 20⟩ [],
    .mk .endTag ⟨20, 24⟩
      [.mk .mark ⟨20, 22⟩ [], .mk .tagName ⟨22, 23⟩ [], .mk .close ⟨23, 24⟩ []]]]

/-- Two sets explain one type, beside a set that is missing and one whose fetch is not started.
With a grammar that cannot be used the same sets explain nothing. -/
theorem load_resolves_markup_two_sets :
    let first : Text := "<p class='tip T U'>a</p>".toList
    let second : Text := "<p class='U tip U'>b</p>".toList
    let reader : Markup.Reader := .ofParser none fun text =>
      if text = first ∨ text = second then some (paragraph, false) else none
    let refused : Markup.Reader :=
      .ofParser (some "Incompatible language version 15".toList) fun _ => none
    let memory : Memory :=
      ⟨[("errors.first.html".toList, first), ("errors.second.html".toList, second)], []⟩
    let names : List Text := ["first".toList, "missing".toList, "second".toList]
    let sets : List (Text × Fate Answer) :=
      [("second".toList, .refused "no thread".toList), ("first".toList, .returns (.ok first))]
    (∃ loaded, Loader.load? ⟨memory.source, .markup reader "tip".toList, none⟩ (.empty .lastWins)
        [] names = some loaded ∧
      loaded.registry.get? "T".toList = some ⟨"T".toList, "a".toList, some "first".toList⟩ ∧
      loaded.registry.get? "U".toList = some ⟨"U".toList, "b".toList, some "second".toList⟩) ∧
    (∃ loaded, Loader.loadWith? ⟨memory.source, .markup reader "tip".toList, none⟩
        (.empty .reject) [] (starts sets) [.report 1 (.finished (.ok first))] = some loaded ∧
      loaded.registry.get? "U".toList = some ⟨"U".toList, "a".toList, some "first".toList⟩) ∧
    ∃ loaded, Loader.load? ⟨memory.source, .markup refused "tip".toList, none⟩ (.empty .lastWins)
        [] names = some loaded ∧
      loaded.registry.get? "T".toList = none := by
  intro first second reader refused memory names sets
  refine ⟨?_, ?_, ?_⟩
  · obtain ⟨loaded, hload, hres⟩ := (load_resolves_markup .lastWins reader memory.resources []
      "tip".toList).1 names (by decide)
    exact ⟨loaded, hload, (hres.get?_eq _).trans (by decide +kernel),
      (hres.get?_eq _).trans (by decide +kernel)⟩
  · have begun : Group.Run (sets.map Prod.snd) false []
        ⟨[1], [], false, [some .lost, none], 1, none⟩ := .start
    have ended := begun.step (.ends (i := 1) (s := .finished (.ok first)) (by simp) rfl)
    have heard : Group.Run (sets.map Prod.snd) false [.report 1 (.finished (.ok first))]
        ⟨[], [], false, [some .lost, some (.finished (.ok first))], 0, none⟩ :=
      ended.step (.receives rfl (by simp) (List.nil_append _).symm)
    obtain ⟨loaded, hload, hres⟩ :=
      (load_resolves_markup .reject reader memory.resources [] "tip".toList).2 sets (by decide) _ _
        (heard.step (.completes rfl rfl)) (by simp) []
    exact ⟨loaded, hload, (hres.get?_eq _).trans (by decide +kernel)⟩
  · obtain ⟨loaded, hload, hres⟩ := (load_resolves_markup .lastWins refused memory.resources []
      "tip".toList).1 names (by decide)
    exact ⟨loaded, hload, (hres.get?_eq _).trans (by decide +kernel)⟩

end Load.Loader

end Explainer
