import Explainer.Template.Escape
import Mathlib.Data.List.Basic
import Mathlib.Tactic.SplitIfs

/-!
# Escaped text can be read back

Six characters of a text are written as entities, and everything else stands
for itself. `entityTable` is that code as a table, and what there is to know
of the single entities is a question about its six rows: each begins with an
ampersand and holds no other, none begins another, and none has a markup
character in it.

An ampersand is special itself, and that is why nothing is lost. Wherever one
stands in an escaped text, an entity begins, and so a reader that takes
entities off from left to right is never out of step with the writer
(`unescape_escape_append`): what looks like an entity in the text was written
with an entity for its ampersand.
-/

namespace Explainer.Markup

/-! ## The six entities -/

/-- The special characters, each with its entity. -/
def entityTable : List (Char × Text) :=
  [('&', "&amp;".toList), ('<', "&lt;".toList), ('>', "&gt;".toList), ('"', "&quot;".toList),
    ('\'', "&#x27;".toList), ('\x60', "&#x60;".toList)]

theorem entity?_eq_some_iff {c : Char} {e : Text} :
    entity? c = some e ↔ (c, e) ∈ entityTable := by
  constructor
  · intro h
    unfold entity? at h
    split_ifs at h <;> (subst_vars; cases h; decide)
  · intro h
    simp only [entityTable, List.mem_cons, Prod.mk.injEq, List.not_mem_nil, or_false] at h
    rcases h with
      ⟨rfl, rfl⟩ | ⟨rfl, rfl⟩ | ⟨rfl, rfl⟩ | ⟨rfl, rfl⟩ | ⟨rfl, rfl⟩ | ⟨rfl, rfl⟩ <;> rfl

theorem entity?_eq_none_iff {c : Char} : entity? c = none ↔ ∀ row ∈ entityTable, row.1 ≠ c := by
  rw [Option.eq_none_iff_forall_ne_some]
  constructor
  · rintro h ⟨d, e⟩ hrow rfl
    exact h e (entity?_eq_some_iff.mpr hrow)
  · intro h e he
    exact h (c, e) (entity?_eq_some_iff.mp he) rfl

/-- An entity begins with an ampersand, and has no other. -/
theorem ampersand_entity {row : Char × Text} (h : row ∈ entityTable) :
    ∃ name, row.2 = '&' :: name ∧ '&' ∉ name := by
  have hall : ∀ row ∈ entityTable, row.2 = '&' :: row.2.tail ∧ '&' ∉ row.2.tail := by decide
  exact ⟨row.2.tail, hall row h⟩

/-- No entity begins another. -/
theorem eq_of_entity_isPrefix {row other : Char × Text} (h : row ∈ entityTable)
    (h' : other ∈ entityTable) (hstart : row.2 <+: other.2) : row = other := by
  have hall : ∀ row ∈ entityTable, ∀ other ∈ entityTable, row.2 <+: other.2 → row = other := by
    decide
  exact hall row h other h' hstart

theorem one_lt_length_entity {row : Char × Text} (h : row ∈ entityTable) : 1 < row.2.length := by
  have hall : ∀ row ∈ entityTable, 1 < row.2.length := by decide
  exact hall row h

/-- One character is written as its entity, or as itself if it has none. -/
theorem escapeChar_cases (c : Char) :
    (c, escapeChar c) ∈ entityTable ∨ (∀ row ∈ entityTable, row.1 ≠ c) ∧ escapeChar c = [c] := by
  unfold escapeChar
  cases he : entity? c with
  | some e => exact .inl (entity?_eq_some_iff.mp he)
  | none => exact .inr ⟨entity?_eq_none_iff.mp he, rfl⟩

theorem escape_cons (c : Char) (s : Text) : escape (c :: s) = escapeChar c ++ escape s :=
  List.flatMap_cons

theorem escape_append (s t : Text) : escape (s ++ t) = escape s ++ escape t :=
  List.flatMap_append

/-! ## Markup characters -/

/-- Whether the character opens or closes a tag or an attribute value. -/
def isMark (c : Char) : Bool :=
  c = '<' || c = '>' || c = '"' || c = '\'' || c = '\x60'

/-- The markup characters of a text, in order. -/
def marks (s : Text) : Text := s.filter isMark

@[simp] theorem marks_append (s t : Text) :
    marks (s ++ t) = marks s ++ marks t := List.filter_append s t

theorem exists_row_of_isMark {c : Char} (h : isMark c = true) :
    ∃ row ∈ entityTable, row.1 = c := by
  simp only [isMark, Bool.or_eq_true, decide_eq_true_eq] at h
  rcases h with (((rfl | rfl) | rfl) | rfl) | rfl <;> decide

theorem isMark_of_mem_escapeChar {c d : Char} (h : d ∈ escapeChar c) : isMark d = false := by
  rcases escapeChar_cases c with hrow | ⟨hnone, hself⟩
  · have hall : ∀ row ∈ entityTable, marks row.2 = [] := by decide
    exact Bool.eq_false_iff.mpr (List.filter_eq_nil_iff.mp (hall _ hrow) d h)
  · rw [hself, List.mem_singleton] at h
    subst h
    rw [Bool.eq_false_iff]
    intro hmark
    obtain ⟨row, hrow, heq⟩ := exists_row_of_isMark hmark
    exact hnone row hrow heq

/-- Escaping leaves no markup character, whatever the text was. -/
theorem isMark_of_mem_escape {s : Text} {d : Char} (h : d ∈ escape s) : isMark d = false := by
  obtain ⟨c, -, hc⟩ := List.mem_flatMap.mp h
  exact isMark_of_mem_escapeChar hc

theorem marks_escape (s : Text) : marks (escape s) = [] := by
  refine List.filter_eq_nil_iff.mpr fun d hd => ?_
  rw [isMark_of_mem_escape hd]
  exact Bool.false_ne_true

/-! ## Ampersands -/

/-- Where an ampersand stands in an escaped text, an entity begins. -/
theorem exists_entity_isPrefix {s before after : Text} (h : escape s = before ++ '&' :: after) :
    ∃ row ∈ entityTable, row.2 <+: '&' :: after := by
  induction s generalizing before with
  | nil => exact absurd h.symm (List.append_ne_nil_of_right_ne_nil _ (List.cons_ne_nil _ _))
  | cons c s ih =>
      rw [escape_cons] at h
      -- The ampersand stands in what is written for `s`, or in what is written for `c`.
      rcases List.append_eq_append_iff.mp h with ⟨between, -, hrest⟩ | ⟨between, hchar, hrest⟩
      · exact ih hrest
      · cases between with
        | nil => exact @ih [] hrest.symm
        | cons d name =>
            obtain ⟨rfl, hafter⟩ := List.cons.inj hrest
            rcases escapeChar_cases c with hrow | ⟨hnone, hself⟩
            · obtain ⟨name', heq, hnot⟩ := ampersand_entity hrow
              rw [hchar] at heq
              cases before with
              | nil =>
                  refine ⟨_, hrow, ?_⟩
                  rw [hchar, hafter]
                  exact ⟨escape s, rfl⟩
              | cons b before =>
                  obtain ⟨-, rfl⟩ := List.cons.inj heq
                  exact absurd (List.mem_append_right before List.mem_cons_self) hnot
            · have hmem : '&' ∈ escapeChar c := hchar ▸ List.mem_append_right _ List.mem_cons_self
              rw [hself, List.mem_singleton] at hmem
              exact absurd hmem (hnone ('&', _) List.mem_cons_self)

/-- At most one entity begins at a place. -/
theorem entity_isPrefix_unique {row other : Char × Text} {s : Text} (h : row ∈ entityTable)
    (h' : other ∈ entityTable) (hs : row.2 <+: s) (hs' : other.2 <+: s) : row = other := by
  rcases List.prefix_or_prefix_of_prefix hs hs' with hstart | hstart
  · exact eq_of_entity_isPrefix h h' hstart
  · exact (eq_of_entity_isPrefix h' h hstart).symm

/-! ## Reading back -/

@[simp] theorem unescape_nil : unescape [] = [] := rfl

theorem unescape_cons {c : Char} (h : c ≠ '&') (s : Text) :
    unescape (c :: s) = c :: unescape s := by
  rw [unescape.eq_def]
  split <;> simp_all

theorem unescape_entity {c : Char} {e : Text} (h : (c, e) ∈ entityTable) (s : Text) :
    unescape (e ++ s) = c :: unescape s := by
  simp only [entityTable, List.mem_cons, Prod.mk.injEq, List.not_mem_nil, or_false] at h
  rcases h with ⟨rfl, rfl⟩ | ⟨rfl, rfl⟩ | ⟨rfl, rfl⟩ | ⟨rfl, rfl⟩ | ⟨rfl, rfl⟩ | ⟨rfl, rfl⟩ <;> rfl

/-- Whatever follows an escaped text, its characters are read back one by one. -/
theorem unescape_escape_append (s t : Text) : unescape (escape s ++ t) = s ++ unescape t := by
  induction s with
  | nil => rfl
  | cons c s ih =>
      rw [escape_cons, List.append_assoc]
      rcases escapeChar_cases c with hrow | ⟨hnone, hself⟩
      · rw [unescape_entity hrow, ih, List.cons_append]
      · have hne : c ≠ '&' := (hnone ('&', _) List.mem_cons_self).symm
        rw [hself, List.singleton_append, unescape_cons hne, ih, List.cons_append]

theorem unescape_escape (s : Text) : unescape (escape s) = s := by
  simpa using unescape_escape_append s []

/-! ## Texts that need no escaping -/

/-- What has no entity stands for itself. -/
theorem escape_eq_self {s : Text} (h : ∀ c ∈ s, entity? c = none) : escape s = s := by
  induction s with
  | nil => rfl
  | cons c s ih =>
      have hc : escapeChar c = [c] := by
        rw [escapeChar, h c List.mem_cons_self, Option.getD_none]
      rw [escape_cons, hc, ih fun d hd => h d (List.mem_cons_of_mem c hd), List.singleton_append]

theorem length_le_escape (s : Text) : s.length ≤ (escape s).length := by
  induction s with
  | nil => exact Nat.le_refl _
  | cons c s ih =>
      have hchar : 1 ≤ (escapeChar c).length := by
        rcases escapeChar_cases c with hrow | ⟨-, hself⟩
        · exact Nat.le_of_lt (one_lt_length_entity hrow)
        · rw [hself]
          exact Nat.le_refl 1
      rw [escape_cons, List.length_append, List.length_cons]
      omega

/-- An entity is longer than its character, and nothing makes up for that. -/
theorem escape_eq_self_iff {s : Text} : escape s = s ↔ ∀ row ∈ entityTable, row.1 ∉ s := by
  constructor
  · intro h
    induction s with
    | nil => exact fun row _ => List.not_mem_nil
    | cons c s ih =>
        rw [escape_cons] at h
        rcases escapeChar_cases c with hrow | ⟨hnone, hself⟩
        · have hlength := congrArg List.length h
          have hlong : 1 < (escapeChar c).length := one_lt_length_entity hrow
          have := length_le_escape s
          rw [List.length_append, List.length_cons] at hlength
          omega
        · rw [hself, List.singleton_append] at h
          intro row hrow hmem
          rcases List.mem_cons.mp hmem with heq | hmem
          · exact hnone row hrow heq
          · exact ih (List.cons.inj h).2 row hrow hmem
  · intro h
    refine escape_eq_self fun c hc => entity?_eq_none_iff.mpr fun row hrow heq => ?_
    exact h row hrow (heq ▸ hc)

/-- Escaping is an encoding: no markup character is left, an ampersand means an entity, and the
text can be read back, also where it looks like an entity itself. -/
theorem escape_encodes :
    (∀ s : Text, ∀ c ∈ escape s, isMark c = false) ∧
    (∀ s before after : Text, escape s = before ++ '&' :: after →
      ∃! row, row ∈ entityTable ∧ row.2 <+: '&' :: after) ∧
    (∀ s : Text, unescape (escape s) = s) ∧ Function.Injective escape ∧
    (∀ s t : Text, escape (s ++ t) = escape s ++ escape t) ∧
    ∀ s : Text, escape s = s ↔ ∀ row ∈ entityTable, row.1 ∉ s := by
  refine ⟨fun s c hc => isMark_of_mem_escape hc, fun s before after h => ?_, unescape_escape,
    Function.LeftInverse.injective unescape_escape, escape_append, fun s => escape_eq_self_iff⟩
  obtain ⟨row, hrow, hstart⟩ := exists_entity_isPrefix h
  refine ⟨row, ⟨hrow, hstart⟩, ?_⟩
  rintro other ⟨hother, hstart'⟩
  exact entity_isPrefix_unique hother hrow hstart' hstart

/-- A text that is spelled like an entity, and another that such a text could be taken for. -/
theorem escape_encodes_lookalike :
    let s : Text := "&amp;lt;".toList
    escape s = "&amp;amp;lt;".toList ∧
      (∃! row, row ∈ entityTable ∧ row.2 <+: '&' :: "amp;amp;lt;".toList) ∧
      unescape (escape s) = s ∧ escape s ≠ escape "&lt;".toList := by
  intro s
  obtain ⟨-, hamp, hread, hinj, -, -⟩ := escape_encodes
  exact ⟨rfl, hamp s [] _ rfl, hread s, hinj.ne (by decide)⟩

end Explainer.Markup
