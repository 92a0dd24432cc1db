import Explainer.Text.Basic
import Mathlib.Data.List.Basic

/-!
# Cuts at bytes

Ranges count bytes, and a text can be cut only where a character starts. At
such a place the text is two texts, and the number of bytes says which two
(`append_inj_of_utf8Length`). What is between two such places is there to be
taken, and slices that meet make one slice.
-/

namespace Explainer.Text

variable {s t u a b a' b' : Text} {lo mid hi k : Nat}

theorem utf8Length_eq_zero : utf8Length s = 0 ↔ s = [] := by
  cases s with
  | nil => simp
  | cons c rest =>
      have hpos := c.utf8Size_pos
      exact iff_of_false (by rw [utf8Length_cons]; omega) (List.cons_ne_nil c rest)

@[simp] theorem splitAtByte?_zero (s : Text) : splitAtByte? 0 s = some ([], s) := by
  cases s <;> rfl

theorem splitAtByte?_append (a b : Text) : splitAtByte? a.utf8Length (a ++ b) = some (a, b) := by
  induction a with
  | nil => exact splitAtByte?_zero b
  | cons c rest ih =>
      obtain ⟨n, hn⟩ := Nat.exists_eq_succ_of_ne_zero (Nat.ne_of_gt c.utf8Size_pos)
      have hlength : utf8Length (c :: rest) = (n + utf8Length rest) + 1 := by
        rw [utf8Length_cons, hn]
        omega
      have hrest : n + utf8Length rest + 1 - c.utf8Size = utf8Length rest := by omega
      rw [hlength, List.cons_append, splitAtByte?, if_pos (by omega), hrest, ih]
      rfl

theorem splitAtByte?_eq_some (h : splitAtByte? k s = some (a, b)) :
    s = a ++ b ∧ a.utf8Length = k := by
  induction k, s using splitAtByte?.induct generalizing a with
  | case1 s =>
      rw [splitAtByte?_zero] at h
      cases h
      exact ⟨rfl, rfl⟩
  | case2 n => cases h
  | case3 n c rest hc ih =>
      rw [splitAtByte?, if_pos hc] at h
      obtain ⟨⟨a', b'⟩, hsplit, heq⟩ := Option.map_eq_some_iff.mp h
      cases heq
      obtain ⟨rfl, hlength⟩ := ih hsplit
      refine ⟨rfl, ?_⟩
      rw [utf8Length_cons, hlength]
      omega
  | case4 n c rest hc =>
      rw [splitAtByte?, if_neg hc] at h
      cases h

theorem splitAtByte?_eq_some_iff :
    splitAtByte? k s = some (a, b) ↔ s = a ++ b ∧ a.utf8Length = k := by
  refine ⟨splitAtByte?_eq_some, ?_⟩
  rintro ⟨rfl, rfl⟩
  exact splitAtByte?_append a b

theorem append_inj_of_utf8Length (h : a ++ b = a' ++ b')
    (hlength : a.utf8Length = a'.utf8Length) : a = a' ∧ b = b' := by
  have hsplit := splitAtByte?_append a b
  rw [h, hlength, splitAtByte?_append] at hsplit
  cases hsplit
  exact ⟨rfl, rfl⟩

/-! ## Boundaries -/

/-- The byte at which a character starts, or the end of the text. -/
def IsBoundary (s : Text) (k : Nat) : Prop :=
  ∃ before after, s = before ++ after ∧ before.utf8Length = k

theorem isBoundary_iff : s.IsBoundary k ↔ (splitAtByte? k s).isSome = true := by
  rw [Option.isSome_iff_exists]
  constructor
  · rintro ⟨before, after, h⟩
    exact ⟨(before, after), splitAtByte?_eq_some_iff.mpr h⟩
  · rintro ⟨⟨before, after⟩, h⟩
    exact ⟨before, after, splitAtByte?_eq_some_iff.mp h⟩

instance (s : Text) (k : Nat) : Decidable (s.IsBoundary k) := decidable_of_iff' _ isBoundary_iff

theorem isBoundary_zero (s : Text) : s.IsBoundary 0 := ⟨[], s, rfl, rfl⟩

theorem isBoundary_utf8Length (s : Text) : s.IsBoundary s.utf8Length :=
  ⟨s, [], (List.append_nil s).symm, rfl⟩

theorem IsBoundary.le (h : s.IsBoundary k) : k ≤ s.utf8Length := by
  obtain ⟨before, after, rfl, rfl⟩ := h
  rw [utf8Length_append]
  exact Nat.le_add_right _ _

/-- Of two boundaries the later one is reached from the earlier one by characters. -/
theorem IsBoundary.exists_between (hlo : s.IsBoundary lo) (hhi : s.IsBoundary hi) (h : lo ≤ hi) :
    ∃ before t after, s = before ++ (t ++ after) ∧ before.utf8Length = lo ∧
      lo + t.utf8Length = hi := by
  obtain ⟨before, after, rfl, rfl⟩ := hlo
  obtain ⟨before', after', heq, rfl⟩ := hhi
  rcases List.append_eq_append_iff.mp heq with ⟨t, rfl, rfl⟩ | ⟨t, rfl, rfl⟩
  · exact ⟨before, t, after', rfl, rfl, (utf8Length_append before t).symm⟩
  · -- The later one is not before the earlier one, so nothing is between them.
    rw [utf8Length_append] at h
    obtain rfl := utf8Length_eq_zero.mp (show utf8Length t = 0 by omega)
    exact ⟨before', [], after, by simp, by simp, by simp⟩

/-! ## Slices -/

theorem slice?_eq_some_iff : s.slice? lo hi = some t ↔
    ∃ before after, s = before ++ (t ++ after) ∧ before.utf8Length = lo ∧
      lo + t.utf8Length = hi := by
  constructor
  · intro h
    rw [slice?] at h
    split at h
    · next hle =>
        obtain ⟨⟨before, rest⟩, hbefore, h⟩ := Option.bind_eq_some_iff.mp h
        obtain ⟨⟨t', after⟩, hafter, rfl⟩ := Option.map_eq_some_iff.mp h
        obtain ⟨rfl, rfl⟩ := splitAtByte?_eq_some hbefore
        obtain ⟨rfl, hlength⟩ := splitAtByte?_eq_some hafter
        exact ⟨before, after, rfl, rfl, by rw [hlength]; omega⟩
    · cases h
  · rintro ⟨before, after, rfl, rfl, rfl⟩
    rw [slice?, if_pos (Nat.le_add_right _ _), splitAtByte?_append, Nat.add_sub_cancel_left]
    exact congrArg (Option.map Prod.fst) (splitAtByte?_append t after)

/-- A slice is there between any two boundaries in order. -/
theorem slice?_eq_slice (hlo : s.IsBoundary lo) (hhi : s.IsBoundary hi) (h : lo ≤ hi) :
    s.slice? lo hi = some (s.slice lo hi) := by
  obtain ⟨before, t, after, heq⟩ := hlo.exists_between hhi h
  have hsome : s.slice? lo hi = some t := slice?_eq_some_iff.mpr ⟨before, after, heq⟩
  rw [slice, hsome]
  rfl

theorem isBoundary_of_slice? (h : s.slice? lo hi = some t) :
    s.IsBoundary lo ∧ s.IsBoundary hi ∧ lo + t.utf8Length = hi := by
  obtain ⟨before, after, rfl, rfl, rfl⟩ := slice?_eq_some_iff.mp h
  refine ⟨⟨before, t ++ after, rfl, rfl⟩, ⟨before ++ t, after, ?_, utf8Length_append before t⟩, rfl⟩
  rw [List.append_assoc]

/-- Slices that start together start with the same character. -/
theorem head_eq_of_slice? {c c' : Char} (h : s.slice? lo mid = some (c :: t))
    (h' : s.slice? lo hi = some (c' :: u)) : c = c' := by
  obtain ⟨before, after, rfl, rfl, -⟩ := slice?_eq_some_iff.mp h
  obtain ⟨before', after', heq, hlength, -⟩ := slice?_eq_some_iff.mp h'
  obtain ⟨-, htail⟩ := append_inj_of_utf8Length heq hlength.symm
  exact (List.cons_eq_cons.mp htail).1

theorem slice?_append (ht : s.slice? lo mid = some t) (hu : s.slice? mid hi = some u) :
    s.slice? lo hi = some (t ++ u) := by
  obtain ⟨before, rest, rfl, rfl, rfl⟩ := slice?_eq_some_iff.mp ht
  obtain ⟨before', after, heq, hlength, rfl⟩ := slice?_eq_some_iff.mp hu
  rw [← List.append_assoc, ← utf8Length_append] at *
  obtain ⟨rfl, rfl⟩ := append_inj_of_utf8Length heq hlength.symm
  refine slice?_eq_some_iff.mpr ⟨before, after, by simp, rfl, ?_⟩
  simp [Nat.add_assoc]

theorem slice_append (hlo : s.IsBoundary lo) (hmid : s.IsBoundary mid) (hhi : s.IsBoundary hi)
    (h : lo ≤ mid) (h' : mid ≤ hi) : s.slice lo hi = s.slice lo mid ++ s.slice mid hi := by
  rw [slice, slice?_append (slice?_eq_slice hlo hmid h) (slice?_eq_slice hmid hhi h')]
  rfl

theorem slice_self (h : s.IsBoundary k) : s.slice k k = [] := by
  obtain ⟨before, after, rfl, rfl⟩ := h
  have hsome : slice? (before ++ after) before.utf8Length before.utf8Length = some [] :=
    slice?_eq_some_iff.mpr ⟨before, after, rfl, rfl, rfl⟩
  rw [slice, hsome]
  rfl

/-! ## Characters and bytes

At a boundary a position in bytes and one in characters are the same place. -/

/-- How many characters stand before a byte. -/
def charAt (s : Text) (k : Nat) : Nat := ((splitAtByte? k s).map (·.1.length)).getD 0

/-- How many bytes the first characters take. -/
def byteAt (s : Text) (i : Nat) : Nat := utf8Length (s.take i)

@[simp] theorem charAt_append (a b : Text) : charAt (a ++ b) a.utf8Length = a.length := by
  rw [charAt, splitAtByte?_append]
  rfl

theorem charAt_zero (s : Text) : s.charAt 0 = 0 := charAt_append [] s

theorem charAt_utf8Length (s : Text) : s.charAt s.utf8Length = s.length := by
  simpa using charAt_append s []

theorem IsBoundary.byteAt_charAt (h : s.IsBoundary k) : s.byteAt (s.charAt k) = k := by
  obtain ⟨before, after, rfl, rfl⟩ := h
  rw [charAt_append, byteAt, List.take_left]

theorem IsBoundary.charAt_le_iff (hlo : s.IsBoundary lo) (hhi : s.IsBoundary hi) :
    s.charAt lo ≤ s.charAt hi ↔ lo ≤ hi := by
  have hmono {i j : Nat} (hi : s.IsBoundary i) (hj : s.IsBoundary j) (h : i ≤ j) :
      s.charAt i ≤ s.charAt j := by
    obtain ⟨before, t, after, rfl, rfl, rfl⟩ := hi.exists_between hj h
    rw [charAt_append, ← utf8Length_append, ← List.append_assoc, charAt_append,
      List.length_append]
    exact Nat.le_add_right _ _
  refine ⟨fun h => Nat.le_of_not_lt fun hlt => ?_, hmono hlo hhi⟩
  have heq : s.charAt hi = s.charAt lo := Nat.le_antisymm (hmono hhi hlo (Nat.le_of_lt hlt)) h
  rw [← hlo.byteAt_charAt, ← hhi.byteAt_charAt, heq] at hlt
  exact Nat.lt_irrefl _ hlt

theorem IsBoundary.charAt_lt_iff (hlo : s.IsBoundary lo) (hhi : s.IsBoundary hi) :
    s.charAt lo < s.charAt hi ↔ lo < hi := by
  rw [← Nat.not_le, ← Nat.not_le, hhi.charAt_le_iff hlo]

/-- The slice between two bytes is what is between the characters there. -/
theorem IsBoundary.slice?_eq (hlo : s.IsBoundary lo) (hhi : s.IsBoundary hi) (h : lo ≤ hi) :
    s.slice? lo hi = some ((s.drop (s.charAt lo)).take (s.charAt hi - s.charAt lo)) := by
  obtain ⟨before, t, after, rfl, rfl, rfl⟩ := hlo.exists_between hhi h
  have hfirst : charAt (before ++ (t ++ after)) before.utf8Length = before.length :=
    charAt_append _ _
  have hlast : charAt (before ++ (t ++ after)) (before.utf8Length + t.utf8Length)
      = before.length + t.length := by
    rw [← utf8Length_append, ← List.append_assoc, charAt_append, List.length_append]
  rw [hfirst, hlast, Nat.add_sub_cancel_left, List.drop_left, List.take_left]
  exact slice?_eq_some_iff.mpr ⟨before, after, rfl, rfl, rfl⟩

/-- Behind a boundary that is not the end there is one character, and then a boundary. -/
theorem IsBoundary.exists_char (h : s.IsBoundary k) (hlt : k < s.utf8Length) :
    ∃ c, s.slice? k (k + c.utf8Size) = some [c] ∧ s.IsBoundary (k + c.utf8Size) ∧
      s.charAt (k + c.utf8Size) = s.charAt k + 1 := by
  obtain ⟨before, after, rfl, rfl⟩ := h
  cases after with
  | nil => simp at hlt
  | cons c rest =>
      have hnext : before.utf8Length + c.utf8Size = utf8Length (before ++ [c]) := by simp
      refine ⟨c, slice?_eq_some_iff.mpr ⟨before, rest, rfl, rfl, by simp⟩, ?_, ?_⟩
      · exact ⟨before ++ [c], rest, by simp, hnext.symm⟩
      · rw [charAt_append, hnext, List.append_cons, charAt_append, List.length_append]
        rfl

end Explainer.Text
