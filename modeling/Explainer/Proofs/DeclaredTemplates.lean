import Explainer.Load.Extractors
import Explainer.Proofs.Words
import Mathlib.Data.List.Forall2
import Mathlib.Data.List.Sort

/-!
# What the elements of a set declare

Each element is a matter of its own. Its classes are the words of its first
class attribute (`Element.Lists`), and if the marker is one of them, the
others are the types that it declares: each once, in the order in which they
first occur (`DeclaredOnce`). `Element.Yields` has one rule for each way in
which this can turn out, and a set yields what its elements do, one after the
other.

Words are never empty and have no white space in them, so that a marker with
either fault marks nothing.
-/

namespace Explainer

namespace Markup

/-! ## Types in the order of first occurrence -/

/-- The types are the classes other than the marker, each once and in the order in which they
first occur. -/
structure DeclaredOnce (classes : List Text) (marker : Text) (types : List Text) : Prop where
  mem_iff : ∀ type, type ∈ types ↔ type ∈ classes ∧ type ≠ marker
  in_order : types.Pairwise fun s t => classes.idxOf s < classes.idxOf t

variable {classes types : List Text} {marker : Text}

theorem DeclaredOnce.nodup (h : DeclaredOnce classes marker types) : types.Nodup :=
  h.in_order.imp fun hlt heq => Nat.ne_of_lt hlt (congrArg classes.idxOf heq)

/-- There is one list of declared types: the order leaves no choice. -/
theorem DeclaredOnce.unique {types' : List Text} (h : DeclaredOnce classes marker types)
    (h' : DeclaredOnce classes marker types') : types = types' := by
  have : Std.Irrefl fun s t => classes.idxOf s < classes.idxOf t := ⟨fun s => lt_irrefl _⟩
  have : Std.Antisymm fun s t => classes.idxOf s < classes.idxOf t :=
    ⟨fun s t hlt hlt' => absurd hlt' (lt_asymm hlt)⟩
  exact h.in_order.eq_of_mem_iff h'.in_order fun type =>
    (h.mem_iff type).trans (h'.mem_iff type).symm

/-- Classes that pass a test come in the same order among those that pass it. -/
theorem idxOf_lt_of_filter {p : Text → Bool} {s t : Text} (ht : p t = true)
    (h : (classes.filter p).idxOf s < (classes.filter p).idxOf t) :
    classes.idxOf s < classes.idxOf t := by
  induction classes with
  | nil => exact h
  | cons c rest ih =>
      have hct : c ≠ t := by
        rintro rfl
        rw [List.filter_cons_of_pos ht, List.idxOf_cons_self] at h
        exact Nat.not_lt_zero _ h
      rw [List.idxOf_cons_ne _ hct]
      by_cases hcs : c = s
      · rw [hcs, List.idxOf_cons_self]
        exact Nat.succ_pos _
      · rw [List.idxOf_cons_ne _ hcs]
        refine Nat.succ_lt_succ (ih ?_)
        by_cases hc : p c = true
        · rw [List.filter_cons_of_pos hc, List.idxOf_cons_ne _ hcs, List.idxOf_cons_ne _ hct] at h
          exact Nat.lt_of_succ_lt_succ h
        · rwa [List.filter_cons_of_neg hc] at h

/-- What is left when doubles are dropped stands in the order of first occurrence. -/
theorem pairwise_eraseDups (classes : List Text) :
    classes.eraseDups.Pairwise fun s t => classes.idxOf s < classes.idxOf t := by
  match classes with
  | [] => exact List.Pairwise.nil
  | c :: rest =>
      have hkept {t : Text} (h : t ∈ (rest.filter fun d => !d == c).eraseDups) :
          (!t == c) = true :=
        (List.mem_filter.mp (List.mem_eraseDups.mp h)).2
      have hne {t : Text} (h : (!t == c) = true) : c ≠ t := by
        rintro rfl
        simp at h
      rw [List.eraseDups_cons]
      refine List.pairwise_cons.mpr ⟨fun t ht => ?_, (pairwise_eraseDups _).imp_of_mem ?_⟩
      · rw [List.idxOf_cons_self, List.idxOf_cons_ne _ (hne (hkept ht))]
        exact Nat.succ_pos _
      · intro s t hs ht hlt
        rw [List.idxOf_cons_ne _ (hne (hkept hs)), List.idxOf_cons_ne _ (hne (hkept ht))]
        exact Nat.succ_lt_succ (idxOf_lt_of_filter (hkept ht) hlt)
termination_by classes.length
decreasing_by exact Nat.lt_succ_of_le (List.length_filter_le _ _)

namespace Element

theorem declaredOnce_declaredTypes (e : Element) (marker : Text) :
    DeclaredOnce e.classes marker (e.declaredTypes marker) where
  mem_iff type := by
    rw [declaredTypes, List.mem_eraseDups, List.mem_filter, decide_eq_true_eq]
  in_order := by
    refine (pairwise_eraseDups _).imp_of_mem fun _ ht hlt => idxOf_lt_of_filter ?_ hlt
    exact (List.mem_filter.mp (List.mem_eraseDups.mp ht)).2

/-! ## One element -/

variable {e : Element} {set source : Text}

/-- The entries of the first attribute with the name `class` in some case. -/
inductive Lists (e : Element) : List Text → Prop
  | absent (h : ∀ a ∈ e.attributes, a.name.foldCase ≠ "class".toList) : e.Lists []
  | first {before after : List Attribute} {a : Attribute} {entries : List Text}
      (hsplit : e.attributes = before ++ a :: after)
      (hbefore : ∀ b ∈ before, b.name.foldCase ≠ "class".toList)
      (hname : a.name.foldCase = "class".toList)
      (hentries : Text.LaidOut (a.value.getD []) entries) : e.Lists entries

theorem lists_iff {entries : List Text} : e.Lists entries ↔ e.classes = entries := by
  rw [classes]
  constructor
  · rintro (habsent | ⟨hsplit, hbefore, hname, hentries⟩)
    · rw [attribute?_eq_none_iff.mpr habsent]
      rfl
    · have hvalue : e.attribute? "class".toList = some _ :=
        attribute?_eq_some_iff.mpr ⟨_, _, _, hsplit, hbefore, hname, rfl⟩
      rw [hvalue]
      exact hentries.words_eq
  · rintro rfl
    cases hvalue : e.attribute? "class".toList with
    | none => exact .absent (attribute?_eq_none_iff.mp hvalue)
    | some value =>
        obtain ⟨_, a, _, hsplit, hbefore, hname, rfl⟩ := attribute?_eq_some_iff.mp hvalue
        exact .first hsplit hbefore hname (Text.words_eq_iff.mp rfl)

theorem isWord_of_mem_classes {c : Text} (h : c ∈ e.classes) : c.IsWord :=
  (Text.words_eq_iff.mp rfl).isWord_of_mem c h

/-- What an element comes to: templates, and warnings. -/
inductive Yields (e : Element) (marker set source : Text) :
    List MessageTemplate → List Event → Prop
  | unmarked {entries : List Text} (hlists : e.Lists entries) (hmarker : marker ∉ entries) :
      e.Yields marker set source [] []
  | bare {entries : List Text} (hlists : e.Lists entries) (hmarker : marker ∈ entries)
      (hall : ∀ c ∈ entries, c = marker) :
      e.Yields marker set source [] [.elementWithoutType set marker]
  | group {entries types : List Text} (hlists : e.Lists entries) (hmarker : marker ∈ entries)
      (htypes : DeclaredOnce entries marker types) (hne : types ≠ []) :
      e.Yields marker set source
        (types.map fun type => ⟨type, e.innerMarkup source, some set⟩) []

theorem yields_iff {templates : List MessageTemplate} {warnings : List Event} :
    e.Yields marker set source templates warnings ↔
      templates = e.templates marker set source ∧ warnings = e.templateEvents marker set := by
  rw [Element.templates, templateEvents]
  have hdeclared := e.declaredOnce_declaredTypes marker
  constructor
  · rintro (⟨hlists, hmarker⟩ | ⟨hlists, hmarker, hall⟩ | ⟨hlists, hmarker, htypes, hne⟩)
    all_goals obtain rfl := lists_iff.mp hlists
    · rw [← hasClass_iff] at hmarker
      rw [if_neg hmarker, Bool.eq_false_iff.mpr hmarker]
      exact ⟨rfl, rfl⟩
    · have hnone : e.declaredTypes marker = [] :=
        List.eq_nil_iff_forall_not_mem.mpr fun type htype =>
          ((hdeclared.mem_iff type).mp htype).2 (hall type ((hdeclared.mem_iff type).mp htype).1)
      rw [hasClass_iff.mpr hmarker, hnone]
      exact ⟨rfl, rfl⟩
    · rw [hdeclared.unique htypes, hasClass_iff.mpr hmarker, List.isEmpty_eq_false_iff.mpr hne]
      exact ⟨rfl, rfl⟩
  · rintro ⟨rfl, rfl⟩
    have hlists : e.Lists e.classes := lists_iff.mpr rfl
    -- Which rule applies is a question about the marker first, and then about what is left.
    by_cases hmarker : marker ∈ e.classes
    · rw [hasClass_iff.mpr hmarker]
      by_cases hne : e.declaredTypes marker = []
      · rw [hne]
        refine .bare hlists hmarker fun c hc => ?_
        by_contra hcm
        exact List.not_mem_nil (hne ▸ (hdeclared.mem_iff c).mpr ⟨hc, hcm⟩)
      · rw [List.isEmpty_eq_false_iff.mpr hne]
        exact .group hlists hmarker hdeclared hne
    · rw [← hasClass_iff] at hmarker
      rw [if_neg hmarker, Bool.eq_false_iff.mpr hmarker]
      exact .unmarked hlists (mt hasClass_iff.mpr hmarker)

theorem Yields.nodup {templates : List MessageTemplate} {warnings : List Event}
    (h : e.Yields marker set source templates warnings) : (templates.map (·.type)).Nodup := by
  cases h with
  | unmarked | bare => exact List.nodup_nil
  | group _ _ htypes _ =>
      rw [List.map_map]
      exact (List.map_id _).symm ▸ htypes.nodup

end Element

/-! ## A set -/

theorem filter_templateEvents (f : Fragment) (marker set : Text) :
    (f.templateEvents marker set).filter (·.level = .warn)
      = f.elements.flatMap (·.templateEvents marker set) := by
  have hmalformed : (if f.hasErrors then [Event.setMalformed set] else []).filter
      (·.level = .warn) = [] := by
    split <;> rfl
  rw [Fragment.templateEvents, List.filter_append, hmalformed, List.nil_append,
    List.filter_eq_self]
  intro event hevent
  obtain ⟨e, -, hevent⟩ := List.mem_flatMap.mp hevent
  rw [Element.templateEvents] at hevent
  split at hevent
  · rw [List.mem_singleton.mp hevent]
    rfl
  · cases hevent

variable {reader : Reader} {set text : Text} {f : Fragment}

theorem templates_of_read (hf : reader.read text = .ok f) :
    reader.templates marker set text
      = .ok (f.elements.flatMap (·.templates marker set text)) := by
  rw [Reader.templates, hf, ← reader.source_eq hf]
  rfl

theorem extract_of_read (hf : reader.read text = .ok f) :
    (Load.Extractor.markup reader marker).extract set text
      = .ok (f.elements.flatMap (·.templates marker set text)) := by
  show (reader.templates marker set text).mapError _ = _
  rw [templates_of_read hf]
  rfl

open Load in
/-- A set that can be read yields what its elements yield, in their order: each of them at most one
template of a type, and none unless it is marked. No element is marked by a marker that is not a
word. Of a set that cannot be read there is only the error. -/
theorem extract_declared (reader : Reader) (marker set text : Text) :
    (∀ f, reader.read text = .ok f →
      ∃ yields : List (List MessageTemplate × List Event),
        List.Forall₂ (fun e y => e.Yields marker set text y.1 y.2) f.elements yields ∧
        reader.templates marker set text = .ok (yields.flatMap (·.1)) ∧
        (Extractor.markup reader marker).extract set text = .ok (yields.flatMap (·.1)) ∧
        ((Extractor.markup reader marker).events set text).filter (·.level = .warn)
          = yields.flatMap (·.2)) ∧
    (∀ cause, reader.read text = .error cause →
      reader.templates marker set text = .error cause ∧
      (Extractor.markup reader marker).extract set text =
        .error (match cause with
          | .language reason => .noParser reason
          | .parse => .unparseable set) ∧
      (Extractor.markup reader marker).events set text = []) ∧
    (∀ e templates warnings templates' warnings',
      Element.Yields e marker set text templates warnings →
      e.Yields marker set text templates' warnings' →
      templates = templates' ∧ warnings = warnings') ∧
    (∀ e templates warnings, Element.Yields e marker set text templates warnings →
      (templates.map (·.type)).Nodup ∧
      (templates ≠ [] → ∃ entries, e.Lists entries ∧ marker ∈ entries)) ∧
    (marker = [] ∨ (∃ c ∈ marker, isBlank c = true) → ∀ f, reader.read text = .ok f →
      reader.templates marker set text = .ok [] ∧
      (Extractor.markup reader marker).extract set text = .ok []) := by
  refine ⟨fun f hf => ?_, fun cause hcause => ?_, fun e ts ws ts' ws' h h' => ?_,
    fun e ts ws h => ⟨h.nodup, fun hne => ?_⟩, fun hmarker f hf => ?_⟩
  · let yields := f.elements.map fun e =>
      (e.templates marker set text, e.templateEvents marker set)
    refine ⟨yields, ?_, ?_, ?_, ?_⟩
    · exact List.forall₂_map_right_iff.mpr (List.forall₂_same.mpr fun e _ =>
        Element.yields_iff.mpr ⟨rfl, rfl⟩)
    · rw [templates_of_read hf, List.flatMap_map]
    · rw [extract_of_read hf, List.flatMap_map]
    · rw [List.flatMap_map, ← filter_templateEvents]
      show (reader.templateEvents marker set text).filter _ = _
      rw [Reader.templateEvents, hf]
  · refine ⟨?_, ?_, ?_⟩
    · rw [Reader.templates, hcause]
      rfl
    · show (reader.templates marker set text).mapError _ = _
      rw [Reader.templates, hcause]
      cases cause <;> rfl
    · show reader.templateEvents marker set text = []
      rw [Reader.templateEvents, hcause]
  · obtain ⟨rfl, rfl⟩ := Element.yields_iff.mp h
    obtain ⟨rfl, rfl⟩ := Element.yields_iff.mp h'
    exact ⟨rfl, rfl⟩
  · cases h with
    | unmarked | bare => exact absurd rfl hne
    | group hlists hmarker _ _ => exact ⟨_, hlists, hmarker⟩
  · have hnot : ¬marker.IsWord := by
      rintro ⟨hne, hblank⟩
      rcases hmarker with hnil | ⟨c, hc, hc'⟩
      · exact hne hnil
      · exact absurd ((hblank c hc).symm.trans hc') Bool.false_ne_true
    have hnone : f.elements.flatMap (·.templates marker set text) = [] := by
      refine List.flatMap_eq_nil_iff.mpr fun e _ => ?_
      have hyields : e.Yields marker set text [] [] :=
        .unmarked (Element.lists_iff.mpr rfl) fun h => hnot (Element.isWord_of_mem_classes h)
      exact (Element.yields_iff.mp hyields).1.symm
    exact ⟨(templates_of_read hf).trans (congrArg _ hnone),
      (extract_of_read hf).trans (congrArg _ hnone)⟩

/-- A paragraph with two class attributes, and what a reader makes of it. -/
def twoClasses : Fragment where
  source := "<p CLASS='U tip T U' class=V>a</p>".toList
  root := .mk .document ⟨0, 34⟩ [.mk .element ⟨0, 34⟩
    [.mk .startTag ⟨0, 29⟩
      [.mk .tagOpen ⟨0, 1⟩ [], .mk .tagName ⟨1, 2⟩ [],
      .mk .attr ⟨3, 20⟩
        [.mk .attributeName ⟨3, 8⟩ [], .mk .mark ⟨8, 9⟩ [],
        .mk .quotedValue ⟨9, 20⟩
          [.mk .mark ⟨9, 10⟩ [], .mk .attributeValue ⟨10, 19⟩ [], .mk .mark ⟨19, 20⟩ []]],
      .mk .attr ⟨21, 28⟩
        [.mk .attributeName ⟨21, 26⟩ [], .mk .mark ⟨26, 27⟩ [], .mk .attributeValue ⟨27, 28⟩ []],
      .mk .close ⟨28, 29⟩ []],
    .mk .text ⟨29, 30⟩ [],
    .mk .endTag ⟨30, 34⟩
      [.mk .mark ⟨30, 32⟩ [], .mk .tagName ⟨32, 33⟩ [], .mk .close ⟨33, 34⟩ []]]]
  hasErrors := false

open Load in
/-- The first of two class attributes counts, and in it a type before the marker and again behind
it; a marker of two words marks nothing. A grammar that cannot be used is an error. -/
theorem extract_declared_repeated :
    let reader : Reader := .ofParser none fun text =>
      if text = twoClasses.source then some (twoClasses.root, false) else none
    let reason := "Incompatible language version 15".toList
    let refused : Reader := .ofParser (some reason) fun _ => none
    let body : Text := "a".toList
    (Extractor.markup reader "tip".toList).extract "s".toList twoClasses.source
        = .ok [⟨"U".toList, body, some "s".toList⟩, ⟨"T".toList, body, some "s".toList⟩] ∧
      (Extractor.markup reader "tip T".toList).extract "s".toList twoClasses.source = .ok [] ∧
      (Extractor.markup refused "tip".toList).extract "s".toList twoClasses.source
        = .error (.noParser reason) := by
  intro reader reason refused body
  have hread : reader.read twoClasses.source = .ok twoClasses := rfl
  have helements : twoClasses.elements = [⟨"p".toList,
      [⟨"CLASS".toList, some "U tip T U".toList⟩, ⟨"class".toList, some "V".toList⟩],
      ⟨0, 34⟩, ⟨29, 30⟩⟩] := by decide +kernel
  obtain ⟨yields, hyields, -, hextract, -⟩ :=
    (extract_declared reader "tip".toList "s".toList twoClasses.source).1 _ hread
  rw [helements, List.forall₂_cons_left_iff] at hyields
  obtain ⟨y, rest, hy, hrest, rfl⟩ := hyields
  obtain rfl := List.forall₂_nil_left_iff.mp hrest
  refine ⟨?_, ?_, ((extract_declared refused _ _ _).2.1 (.language reason) rfl).2.1⟩
  · rw [hextract, List.flatMap_cons, (Element.yields_iff.mp hy).1]
    rfl
  · exact ((extract_declared reader _ _ _).2.2.2.2 (.inr ⟨' ', by decide, by decide⟩) _ hread).2

end Markup
end Explainer
