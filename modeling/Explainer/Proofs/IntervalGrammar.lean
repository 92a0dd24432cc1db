import Explainer.Interval
import Explainer.Proofs.Numeral
import Mathlib.Data.List.Forall2

/-!
# What a highlight descriptor says

A descriptor is cut at its commas, and the parts are trimmed; `Segmented`
says so without cutting, by what the parts give when they are joined again.
What the segments say is a matter of three questions, asked in this order:
whether there are too many of them, whether the first is an offset, and
whether the second is one where it is not empty. `Says` has one rule for each
answer.

Every descriptor has exactly one list of segments and falls under exactly one
rule, and reading it gives the answer of that rule (`parse_eq_iff_says`). An
offset is whatever spells a number that fits a word, so that the rules leave
no room for a number that is cut short or wrapped.
-/

namespace Explainer.Interval

/-- The segments of a descriptor: its parts between commas, without the white
space at their ends. -/
def Segmented (descriptor : Text) (segments : List Text) : Prop :=
  ∃ parts : List Text, parts ≠ [] ∧ (∀ part ∈ parts, ',' ∉ part) ∧
    descriptor = [','].intercalate parts ∧ List.Forall₂ Text.Trims parts segments

/-- What a descriptor with the given segments says, or what is wrong with it. -/
inductive Says (descriptor : Text) : List Text → Except IntervalError Interval → Prop
  | tooManySegments {segments : List Text} (h : 3 ≤ segments.length) :
      Says descriptor segments (.error (.tooManySegments descriptor segments.length))
  | missingStart {rest : List Text} (h : rest.length ≤ 1) :
      Says descriptor ([] :: rest) (.error (.missingStart descriptor))
  | invalidStart {first : Text} {rest : List Text} (h : rest.length ≤ 1)
      (hne : first ≠ []) (hfirst : ∀ n, ¬ SpellsWord first n) :
      Says descriptor (first :: rest) (.error (.invalidStart descriptor first))
  | invalidStop {first second : Text} {start : Nat} (hfirst : SpellsWord first start)
      (hne : second ≠ []) (hsecond : ∀ n, ¬ SpellsWord second n) :
      Says descriptor [first, second] (.error (.invalidStop descriptor second))
  | point {first : Text} {rest : List Text} {start : Nat}
      (hfirst : SpellsWord first start) (hrest : rest = [] ∨ rest = [[]]) :
      Says descriptor (first :: rest) (.ok (.point start))
  | span {first second : Text} {start stop : Nat} (hfirst : SpellsWord first start)
      (hsecond : SpellsWord second stop) :
      Says descriptor [first, second] (.ok (.span start stop))

section

variable {d : Text} {segs : List Text} {r : Except IntervalError Interval}

/-! ## Segments -/

theorem notMem_of_mem_splitOn {x : Char} {s part : Text} (h : part ∈ s.splitOn x) :
    x ∉ part := by
  induction s generalizing part with
  | nil =>
      rw [List.splitOn_nil, List.mem_singleton] at h
      subst h
      exact List.not_mem_nil
  | cons c s ih =>
      rw [List.splitOn_cons_eq_if_modifyHead] at h
      split at h
      · rcases List.mem_cons.mp h with rfl | hrest
        · exact List.not_mem_nil
        · exact ih hrest
      · next hne =>
          obtain ⟨first, rest, hsplit⟩ := List.exists_cons_of_ne_nil (List.splitOn_ne_nil x s)
          rw [hsplit, List.modifyHead_cons] at h
          rcases List.mem_cons.mp h with rfl | hrest
          · intro hmem
            rcases List.mem_cons.mp hmem with rfl | hmem
            · exact hne (BEq.rfl)
            · exact ih (hsplit ▸ List.mem_cons_self) hmem
          · exact ih (hsplit ▸ List.mem_cons_of_mem first hrest)

theorem segmented_segments (d : Text) : Segmented d (segments d) := by
  refine ⟨d.splitOn ',', List.splitOn_ne_nil ',' d, fun part hpart => notMem_of_mem_splitOn hpart,
    (List.intercalate_splitOn ',').symm, ?_⟩
  rw [segments, List.forall₂_map_right_iff, List.forall₂_same]
  exact fun part _ => Text.trims_trim part

theorem Segmented.segments_eq (h : Segmented d segs) : segments d = segs := by
  obtain ⟨parts, hne, hcomma, rfl, htrims⟩ := h
  have htrim : List.Forall₂ (fun part segment => part.trim = segment) parts segs :=
    htrims.imp fun _ _ h => h.trim_eq
  rw [segments, List.splitOn_intercalate ',' hcomma hne]
  rwa [← List.forall₂_eq_eq_eq, List.forall₂_map_left_iff]

/-- Texts without commas and without white space at their ends are the
segments of what they are joined to. -/
theorem segments_intercalate (hne : segs ≠ []) (hcomma : ∀ segment ∈ segs, ',' ∉ segment)
    (htrims : ∀ segment ∈ segs, Text.Trims segment segment) :
    segments ([','].intercalate segs) = segs :=
  Segmented.segments_eq ⟨segs, hne, hcomma, rfl, List.forall₂_same.mpr htrims⟩

/-! ## One rule for every descriptor -/

theorem says_readStop {first : Text} {start : Nat} {rest : List Text}
    (hrest : rest.length ≤ 1) (hfirst : SpellsWord first start) :
    Says d (first :: rest) ((readStop d rest).map fun stop => ⟨start, stop⟩) := by
  match rest with
  | [] => exact .point hfirst (.inl rfl)
  | [second] =>
      rw [readStop]
      split
      · next hempty =>
          rw [List.isEmpty_iff] at hempty
          subst hempty
          exact .point hfirst (.inr rfl)
      · next hne =>
          rw [List.isEmpty_iff] at hne
          split
          · next stop hstop => exact .span hfirst (readWord?_eq_some_iff.mp hstop)
          · next hstop => exact .invalidStop hfirst hne (readWord?_eq_none_iff.mp hstop)

theorem says_parse (d : Text) : Says d (segments d) (parse d) := by
  rw [parse]
  split
  · next hsegments =>
      obtain ⟨parts, hne, -, -, htrims⟩ := segmented_segments d
      rw [hsegments, List.forall₂_nil_right_iff] at htrims
      exact absurd htrims hne
  · next first rest hsegments =>
      rw [hsegments]
      split
      · exact .tooManySegments (by rw [List.length_cons]; omega)
      · next hlength =>
          have hrest : rest.length ≤ 1 := Nat.le_of_not_lt hlength
          split
          · next hempty =>
              rw [List.isEmpty_iff] at hempty
              subst hempty
              exact .missingStart hrest
          · next hne =>
              rw [List.isEmpty_iff] at hne
              split
              · next hstart => exact .invalidStart hrest hne (readWord?_eq_none_iff.mp hstart)
              · next start hstart => exact says_readStop hrest (readWord?_eq_some_iff.mp hstart)

theorem parse_eq_of_length_le {first : Text} {rest : List Text}
    (hsegs : segments d = first :: rest) (hrest : rest.length ≤ 1) (hne : first ≠ []) :
    parse d = match readWord? first with
      | none => .error (.invalidStart d first)
      | some start => (readStop d rest).map fun stop => ⟨start, stop⟩ := by
  rw [parse, hsegs]
  exact (if_neg (by omega)).trans (if_neg (by simpa using hne))

theorem parse_eq_of_start {first : Text} {rest : List Text} {start : Nat}
    (hsegs : segments d = first :: rest) (hrest : rest.length ≤ 1)
    (hfirst : SpellsWord first start) :
    parse d = (readStop d rest).map fun stop => ⟨start, stop⟩ := by
  rw [parse_eq_of_length_le hsegs hrest hfirst.ne_nil, readWord?_eq_some_iff.mpr hfirst]

theorem readStop_of_ne_nil {second : Text} (hne : second ≠ []) :
    readStop d [second] = match readWord? second with
      | some n => .ok (some n)
      | none => .error (.invalidStop d second) := by
  rw [readStop]
  exact if_neg (by simpa using hne)

/-- No descriptor falls under two rules. -/
theorem Says.parse_eq (hsegs : segments d = segs) (h : Says d segs r) : parse d = r := by
  cases h with
  | tooManySegments h =>
      obtain ⟨first, rest, rfl⟩ := List.exists_cons_of_length_pos (Nat.lt_of_lt_of_le (by decide) h)
      rw [List.length_cons] at h
      rw [parse, hsegs]
      exact if_pos (by omega)
  | missingStart h =>
      rw [parse, hsegs]
      exact (if_neg (by omega)).trans (if_pos rfl)
  | invalidStart h hne hfirst =>
      rw [parse_eq_of_length_le hsegs h hne, readWord?_eq_none_iff.mpr hfirst]
  | invalidStop hfirst hne hsecond =>
      rw [parse_eq_of_start hsegs (Nat.le_refl 1) hfirst, readStop_of_ne_nil hne,
        readWord?_eq_none_iff.mpr hsecond]
      rfl
  | point hfirst hrest =>
      rcases hrest with rfl | rfl
      · rw [parse_eq_of_start hsegs (Nat.zero_le 1) hfirst]
        rfl
      · rw [parse_eq_of_start hsegs (Nat.le_refl 1) hfirst]
        rfl
  | span hfirst hsecond =>
      rw [parse_eq_of_start hsegs (Nat.le_refl 1) hfirst, readStop_of_ne_nil hsecond.ne_nil,
        readWord?_eq_some_iff.mpr hsecond]
      rfl

end

/-- For every descriptor there is one rule that applies, and reading the
descriptor gives what the rule says. -/
theorem parse_eq_iff_says (descriptor : Text) (r : Except IntervalError Interval) :
    parse descriptor = r ↔
      ∃ segments, Segmented descriptor segments ∧ Says descriptor segments r := by
  constructor
  · rintro rfl
    exact ⟨segments descriptor, segmented_segments descriptor, says_parse descriptor⟩
  · rintro ⟨segs, hsegs, hsays⟩
    exact hsays.parse_eq hsegs.segments_eq

-- The largest offset is read in any spelling, and the next number in none.
example : parse "\u2003018446744073709551615 ,".toList = .ok (.point maxWord) := rfl

example : parse "0, 18446744073709551616".toList =
    .error (.invalidStop "0, 18446744073709551616".toList "18446744073709551616".toList) := rfl

end Explainer.Interval
