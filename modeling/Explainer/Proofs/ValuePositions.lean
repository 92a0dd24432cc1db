import Explainer.Proofs.Entries
import Explainer.Proofs.FieldDescent
import Explainer.Proofs.Numeral

/-!
# The positions of a value

A position in a value is the list of the steps that lead there: the keys of
members and the indices of items. `Leads` follows such a list without
reading anything but one step at a time. A path writes the steps down with
dots between them, and looking it up leads where the steps lead, and nowhere
when they lead nowhere (`descend?_eq_some_iff`). Only the path as a whole is
trimmed. Inside it a step may be empty or have blanks at its ends, and the
same digits are a key in an object and an index in an array.

What is below a position can be looked up from there. That is why a path may
be cut at any dot (`Json.lookup?_append`).
-/

namespace Explainer

/-! ## Single steps -/

/-- The index that a segment spells, with a plus sign in front or without. -/
inductive SpellsIndex : Text → Nat → Prop
  | plain {digits : Text} {index : Nat} (h : SpellsWord digits index) : SpellsIndex digits index
  | plus {digits : Text} {index : Nat} (h : SpellsWord digits index) :
      SpellsIndex ('+' :: digits) index

theorem readIndex?_eq_some_iff {s : Text} {index : Nat} :
    readIndex? s = some index ↔ SpellsIndex s index := by
  unfold readIndex?
  split
  · next digits =>
      rw [readWord?_eq_some_iff]
      refine ⟨.plus, fun h => ?_⟩
      cases h with
      | plain h => exact absurd List.mem_cons_self (h.notMem (by decide))
      | plus h => exact h
  · next hplus =>
      rw [readWord?_eq_some_iff]
      refine ⟨.plain, fun h => ?_⟩
      cases h with
      | plain h => exact h
      | @plus digits _ h => exact absurd rfl (hplus digits)

namespace Json

/-- One step down: to the member of an object that has the segment as its key,
or to the item of an array that has it as its index. Scalars have no steps. -/
inductive Selects (segment : Text) : Json → Json → Prop
  | member {members before after : Members Json} {w : Json}
      (hmembers : members = before ++ (segment, w) :: after)
      (hfirst : segment ∉ before.keys) : Selects segment (.obj members) w
  | item {items : List Json} {index : Nat} {w : Json} (hindex : SpellsIndex segment index)
      (hitem : items[index]? = some w) : Selects segment (.arr items) w

/-- The steps lead from the first value to the second. -/
inductive Leads : List Text → Json → Json → Prop
  | here {v : Json} : Leads [] v v
  | step {segment : Text} {rest : List Text} {v w u : Json} (hstep : Selects segment v w)
      (hrest : Leads rest w u) : Leads (segment :: rest) v u

/-- A path that writes down the steps. -/
structure Writes (path : Text) (segments : List Text) : Prop where
  ne_nil : segments ≠ []
  no_dot : ∀ segment ∈ segments, '.' ∉ segment
  path_eq : path = ['.'].intercalate segments
  path_ne_nil : path ≠ []
  trim_eq : path.trim = path

section

variable {segment path : Text} {segments : List Text} {v w : Json}

theorem child?_eq_some_iff : v.child? segment = some w ↔ Selects segment v w := by
  cases v with
  | obj members =>
      rw [child?, Members.find?_eq_some_iff]
      constructor
      · rintro ⟨before, after, heq, hfirst⟩
        exact .member heq hfirst
      · rintro ⟨heq, hfirst⟩
        exact ⟨_, _, heq, hfirst⟩
  | arr items =>
      rw [child?, Option.bind_eq_some_iff]
      constructor
      · rintro ⟨index, hindex, hitem⟩
        exact .item (readIndex?_eq_some_iff.mp hindex) hitem
      · intro h
        cases h with
        | item hindex hitem => exact ⟨_, readIndex?_eq_some_iff.mpr hindex, hitem⟩
  | null | bool _ | num _ | str _ => exact ⟨fun h => (nomatch h), fun h => (nomatch h)⟩

theorem descend?_eq_some_iff : descend? segments v = some w ↔ Leads segments v w := by
  induction segments generalizing v with
  | nil =>
      rw [descend?, Option.some_inj]
      constructor
      · rintro rfl
        exact .here
      · intro h
        cases h
        rfl
  | cons segment rest ih =>
      rw [descend?, Option.bind_eq_some_iff]
      constructor
      · rintro ⟨u, hstep, hrest⟩
        exact .step (child?_eq_some_iff.mp hstep) (ih.mp hrest)
      · intro h
        cases h with
        | step hstep hrest => exact ⟨_, child?_eq_some_iff.mpr hstep, ih.mpr hrest⟩

theorem Writes.lookup?_eq (h : Writes path segments) (v : Json) :
    v.lookup? path = descend? segments v := by
  have hne : path.isEmpty = false := List.isEmpty_eq_false_iff.mpr h.path_ne_nil
  have hsplit : path.splitOn '.' = segments := by
    rw [h.path_eq]
    exact List.splitOn_intercalate '.' h.no_dot h.ne_nil
  rw [lookup?, h.trim_eq, hne, hsplit]
  rfl

end

/-- Looking up a path is following the steps that it writes down, and a path
that is cut at a dot is followed one part after the other. -/
theorem lookup?_positions (v : Json) :
    (∀ (path : Text) (segments : List Text) (w : Json), Writes path segments →
      (v.lookup? path = some w ↔ Leads segments v w)) ∧
    ∀ p q : Text, p.IsTrimmed → q.IsTrimmed →
      v.lookup? (p ++ '.' :: q) = (v.lookup? p).bind (lookup? q) := by
  refine ⟨?_, fun p q hp hq => lookup?_append hp hq v⟩
  intro path segments w h
  rw [h.lookup?_eq]
  exact descend?_eq_some_iff

/-- A value with an empty key, and with digits both as a key and as an index. -/
def branching : Json :=
  .obj [("1".toList, .str []), ("a".toList, .arr [.null, .obj [([], .bool true)]])]

theorem lookup?_positions_branching :
    Writes "a.+01.".toList ["a".toList, "+01".toList, []] ∧
      branching.lookup? "a.+01.".toList = some (.bool true) ∧
      Text.IsTrimmed "a".toList ∧ Text.IsTrimmed "+01.".toList ∧
      branching.lookup? "a.+01.".toList
        = (branching.lookup? "a".toList).bind (lookup? "+01.".toList) := by
  have hwrites : Writes "a.+01.".toList ["a".toList, "+01".toList, []] :=
    ⟨by decide, by decide, rfl, by decide, rfl⟩
  have hleads : Leads ["a".toList, "+01".toList, []] branching (.bool true) := by
    refine .step (@Selects.member _ _ [("1".toList, .str [])] _ _ rfl (by decide)) ?_
    refine .step (.item (.plus (readWord?_eq_some_iff.mp rfl)) rfl) ?_
    exact .step (@Selects.member _ _ [] _ _ rfl (by decide)) .here
  have hfirst : Text.IsTrimmed "a".toList := by
    refine ⟨by decide, ?_, ?_⟩ <;> (intro c hc; cases hc; decide)
  have hrest : Text.IsTrimmed "+01.".toList := by
    refine ⟨by decide, ?_, ?_⟩ <;> (intro c hc; cases hc; decide)
  obtain ⟨hfollow, hcut⟩ := lookup?_positions branching
  exact ⟨hwrites, (hfollow _ _ _ hwrites).mpr hleads, hfirst, hrest, hcut _ _ hfirst hrest⟩

end Json

end Explainer
