import Explainer.Proofs.FieldDescent
import Explainer.Proofs.FieldPlaces

/-!
# Guarded fields are not missing

A careful author of templates asks for a field before using it. This file
makes a discipline of that and proves it sound: in a tree where every field
that is shown or looped through is guarded, strict rendering never finds one
missing, whatever the record is.

There are three ways to be guarded. The field is known to hold, by a branch
around that asks for the very same path, and no loop in between gives its
first name another meaning. Or it is the item of a loop around. Or it is the
index of the loop. What makes them sound is the relation between what
encloses a place and the scopes that reach it: a branch leaves the scope
alone, and a loop covers two names and no more.

The discipline can be checked: it looks at the tree alone, and is decidable.
-/

namespace Explainer.Template

/-! ## Guards -/

namespace Enclosing

/-- The field that holds wherever rendering comes to what is enclosed. -/
def guard? : Enclosing → Option Text
  | .thenPart false path | .elsePart true path => some path
  | _ => none

def binder? : Enclosing → Option Text
  | .body binder _ => some binder
  | _ => none

/-- The names that have another meaning for what is enclosed. -/
def bound : Enclosing → List Text
  | .body binder _ => [binder, Scope.loopName]
  | _ => []

theorem exists_body {e : Enclosing} {binder : Text} (h : e.binder? = some binder) :
    ∃ source, e = .body binder source := by
  cases e with
  | thenPart | elsePart => cases h
  | body b source =>
      obtain rfl := Option.some.inj h
      exact ⟨source, rfl⟩

end Enclosing

/-- A branch around asks for the field, and no loop further inside binds its
first name. -/
def Held (path : Text) : List Enclosing → Prop
  | [] => False
  | e :: outer => e.guard? = some path ∨ (Scope.head path ∉ e.bound ∧ Held path outer)

instance decidableHeld (path : Text) : (around : List Enclosing) → Decidable (Held path around)
  | [] => inferInstanceAs (Decidable False)
  | e :: outer =>
    have := decidableHeld path outer
    inferInstanceAs (Decidable (e.guard? = some path ∨ (Scope.head path ∉ e.bound ∧ _)))

/-- A field is guarded where it stands: by a branch around, as the item of a
loop around, or as the index of the loop around. -/
def Guarded (around : List Enclosing) (path : Text) : Prop :=
  Held path around ∨ (∃ e ∈ around, e.binder? = some path) ∨
    (path = Scope.loopIndex ∧ ∃ e ∈ around, e.binder?.isSome = true)

instance (around : List Enclosing) (path : Text) : Decidable (Guarded around path) :=
  inferInstanceAs (Decidable (_ ∨ _ ∨ _))

/-- A field that is shown or looped through is guarded, and a loop does not
take the name of the index. -/
def Place.WellGuarded (w : Place) : Prop :=
  match w.use with
  | .value path => Guarded w.around path
  | .condition _ => True
  | .source binder path => binder ≠ Scope.loopName ∧ Guarded w.around path

instance : DecidablePred Place.WellGuarded
  | ⟨around, .value path⟩ => inferInstanceAs (Decidable (Guarded around path))
  | ⟨_, .condition _⟩ => inferInstanceAs (Decidable True)
  | ⟨around, .source binder path⟩ =>
    inferInstanceAs (Decidable (binder ≠ Scope.loopName ∧ Guarded around path))

@[inherit_doc Place.WellGuarded]
def WellGuarded (ns : List Node) : Prop := ∀ w ∈ Node.placesAll [] ns, w.WellGuarded

instance (ns : List Node) : Decidable (WellGuarded ns) :=
  inferInstanceAs (Decidable (∀ w ∈ Node.placesAll [] ns, w.WellGuarded))

/-! ## Guards are sound -/

namespace Scope.Reaches

variable {strict : Bool} {data : Json} {around : List Enclosing} {σ : Scope}

theorem find?_binder (h : σ.Reaches strict data around) {binder source : Text}
    (hb : .body binder source ∈ around) :
    ∃ v, Members.find? binder σ.bindings = some v := by
  induction h with
  | start => cases hb
  | thenPart _ _ ih | elsePart _ _ ih =>
      exact ih (List.mem_of_ne_of_mem (by simp) hb)
  | @body _ _ b _ _ _ _ item index _ ih =>
      -- the innermost loop binds the name, or its index has it, or it is bound further out
      by_cases heq : binder = b
      · subst heq
        exact ⟨item, find?_enter_self⟩
      · by_cases hloop : binder = loopName
        · subst hloop
          exact ⟨_, find?_enter_loopName (Ne.symm heq)⟩
        · rw [find?_enter_of_ne heq hloop]
          refine ih ((List.mem_cons.mp hb).resolve_left fun hin => ?_)
          cases hin
          exact heq rfl

theorem find?_loopName (h : σ.Reaches strict data around)
    (hne : ∀ binder source, .body binder source ∈ around → binder ≠ loopName)
    {binder source : Text} (hb : .body binder source ∈ around) :
    ∃ index : Nat, Members.find? loopName σ.bindings
      = some (.obj [("index".toList, .num (.int index))]) := by
  induction h with
  | start => cases hb
  | thenPart _ _ ih | elsePart _ _ ih =>
      exact ih (fun b s hin => hne b s (List.mem_cons_of_mem _ hin))
        (List.mem_of_ne_of_mem (by simp) hb)
  | @body _ _ b s _ _ _ _ index _ _ =>
      exact ⟨index, find?_enter_loopName (hne b s List.mem_cons_self)⟩

/-- What encloses a place tells the truth about the field it vouches for. -/
theorem resolves_of_guard? {e : Enclosing} {path : Text}
    (h : σ.Reaches strict data (e :: around)) (hguard : e.guard? = some path) :
    σ.resolve? path ≠ none := by
  have hsome {p : Text} (hholds : (σ.resolve? p).any Json.holds = true) :
      σ.resolve? p ≠ none := by
    intro hnone
    rw [hnone] at hholds
    cases hholds
  cases h with
  | @thenPart _ _ negate p _ hholds =>
      cases negate with
      | true => cases Option.some_ne_none path hguard.symm
      | false =>
          obtain rfl := Option.some.inj hguard
          exact hsome (eq_true_of_ne_false hholds)
  | @elsePart _ _ negate p _ hholds =>
      cases negate with
      | false => cases Option.some_ne_none path hguard.symm
      | true =>
          obtain rfl := Option.some.inj hguard
          exact hsome hholds
  | body => cases hguard

/-- A field that a branch around asks for is there, and loops that leave its
first name alone leave the field alone. -/
theorem resolves_of_held {path : Text} (h : σ.Reaches strict data around)
    (hheld : Held path around) : σ.resolve? path ≠ none := by
  induction around generalizing σ with
  | nil => cases hheld
  | cons e outer ih =>
      rcases hheld with hguard | ⟨hbound, hheld⟩
      · exact h.resolves_of_guard? hguard
      · cases h with
        | thenPart h _ | elsePart h _ => exact ih h hheld
        | body h _ _ =>
            obtain ⟨hb, hl⟩ := not_or.mp (fun hor => hbound (List.mem_pair.mpr hor))
            rw [resolve?_enter_of_ne hb hl]
            exact ih h hheld

theorem resolves (h : σ.Reaches strict data around)
    (hbinder : ∀ binder source, .body binder source ∈ around →
      isIdentifier binder = true ∧ binder ≠ loopName)
    {path : Text} (hguard : Guarded around path) : σ.resolve? path ≠ none := by
  rcases hguard with hheld | ⟨e, he, hitem⟩ | ⟨rfl, e, he, hindex⟩
  · exact h.resolves_of_held hheld
  · obtain ⟨source, rfl⟩ := Enclosing.exists_body hitem
    have hdot : '.' ∉ path := by
      intro hmem
      have := (isIdentifier_iff.mp (hbinder _ _ he).1).2 '.' hmem
      exact absurd this (by decide)
    obtain ⟨v, hv⟩ := h.find?_binder he
    rw [resolve?, head_eq_self hdot, hv, tail_eq_nil hdot]
    exact Option.some_ne_none _
  · obtain ⟨binder, hb⟩ := Option.isSome_iff_exists.mp hindex
    obtain ⟨source, rfl⟩ := Enclosing.exists_body hb
    obtain ⟨index, hv⟩ := h.find?_loopName (fun b s hin => (hbinder b s hin).2) he
    rw [resolve?, show head loopIndex = loopName from rfl, hv]
    exact Option.some_ne_none _

end Scope.Reaches

theorem Place.WellGuarded.guarded {around : List Enclosing} {u : FieldUse} {path : Text}
    (h : Place.WellGuarded ⟨around, u⟩)
    (hu : u = .value path ∨ ∃ binder, u = .source binder path) :
    Guarded around path := by
  rcases hu with rfl | ⟨binder, rfl⟩
  · exact h
  · exact h.2

theorem WellGuarded.binder_ne {ns : List Node} (h : WellGuarded ns) {binder path : Text}
    (hu : .source binder path ∈ Node.usesAll ns) : binder ≠ Scope.loopName := by
  rw [← Node.map_use_placesAll [] ns] at hu
  obtain ⟨⟨around, use⟩, hw, rfl⟩ := List.mem_map.mp hu
  exact (h _ hw).1

/-- Strict rendering of a template whose fields are all guarded finds none of
them missing, in whatever record. -/
theorem render_wellGuarded (delimiters : Delimiters) (template : Text) (data : Json)
    (h : ∀ ns, Node.parse (delimiters.tokens template) = .ok ns → WellGuarded ns)
    (path : Text) :
    (render true delimiters template data).result ≠ .error (.missingField path) := by
  intro hmissing
  rw [render] at hmissing
  cases hparse : Node.parse (delimiters.tokens template) with
  | error e => rw [hparse] at hmissing; cases hmissing
  | ok ns =>
      rw [hparse] at hmissing
      have hns := h ns hparse
      obtain ⟨w, hw, σ, hσ, hraise⟩ := Node.exists_place_of_error hmissing
      obtain ⟨huse, hnone⟩ := hraise.missing
      refine hσ.resolves (fun binder source hin => ?_) ((hns w hw).guarded huse) hnone
      -- the loops around a place are loops of the tree, so their names are identifiers
      have hsource := (Node.source_of_mem_placesAll hw hin).resolve_left List.not_mem_nil
      exact ⟨(Node.spelt_of_parse hparse hsource).1, hns.binder_ne hsource⟩

/-- A template with a guard of each kind. -/
def tagList : Text :=
  ("[% if tags %][% for t in tags %]" ++
    "\x7b\x7bloop.index\x7d\x7d\x7b\x7bt\x7d\x7d[% end %][% end %]").toList

theorem render_wellGuarded_tagList :
    ∃ ns, Node.parse (Delimiters.standard.tokens tagList) = .ok ns ∧ WellGuarded ns ∧
      (render true .standard tagList (.obj [])).result
        ≠ .error (.missingField "tags".toList) := by
  have hread : (Node.parse (Delimiters.standard.tokens tagList)).toOption.any
      (fun ns => decide (WellGuarded ns)) = true := by
    decide +kernel
  cases hparse : Node.parse (Delimiters.standard.tokens tagList) with
  | error e => rw [hparse] at hread; cases hread
  | ok ns =>
      rw [hparse] at hread
      have hns : WellGuarded ns := of_decide_eq_true hread
      refine ⟨ns, rfl, hns, render_wellGuarded _ _ _ (fun ns' hns' => ?_) _⟩
      exact Except.ok.inj (hparse.symm.trans hns') ▸ hns

end Explainer.Template
