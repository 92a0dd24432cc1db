import Explainer.Proofs.DecimalText
import Mathlib.Data.List.Induction
import Mathlib.Data.Nat.Digits.Defs

/-!
# The spellings of a number

A run of digits spells a number in base ten, the digit on the right counting
ones. The strict readers of this library read exactly these runs, so that
nothing with a sign, a blank or a digit of another script is taken for a
number, and what is read is the number that is written: a run that spells
more than a word holds is refused, however it is written.

A number has many spellings, but only zeros in front can tell them apart
(`Spells.exists_zeros`). The decimal text is the one without any. It stands at
the end of every other spelling, which makes it the shortest.
-/

namespace Explainer

/-- A non-empty run of ASCII digits that spells the number `n`. -/
structure Spells (s : Text) (n : Nat) : Prop where
  ne_nil : s ≠ []
  digits : ∀ c ∈ s, isDigit c = true
  value : Nat.ofDigits 10 (s.reverse.map digitValue) = n

/-- A spelling of a number that fits a word. -/
structure SpellsWord (s : Text) (n : Nat) : Prop extends Spells s n where
  le_maxWord : n ≤ maxWord

section

variable {s : Text} {c : Char} {n : Nat}

/-! ## Reading a run of digits -/

theorem digitsValue_concat (s : Text) (c : Char) :
    digitsValue (s ++ [c]) = 10 * digitsValue s + digitValue c := by
  rw [digitsValue, List.foldl_append]
  rfl

/-- The first digit read weighs most. -/
theorem ofDigits_reverse (s : Text) :
    Nat.ofDigits 10 (s.reverse.map digitValue) = digitsValue s := by
  induction s using List.reverseRecOn with
  | nil => rfl
  | append_singleton s c ih =>
      rw [List.reverse_concat, List.map_cons, Nat.ofDigits_cons, ih, digitsValue_concat,
        Nat.add_comm]

theorem spells_iff_digitsValue :
    Spells s n ↔ s ≠ [] ∧ (∀ c ∈ s, isDigit c = true) ∧ digitsValue s = n := by
  rw [← ofDigits_reverse]
  constructor
  · intro h
    exact ⟨h.ne_nil, h.digits, h.value⟩
  · rintro ⟨hne, hall, hvalue⟩
    exact ⟨hne, hall, hvalue⟩

theorem readNat?_eq_some_iff : readNat? s = some n ↔ Spells s n := by
  rw [spells_iff_digitsValue, readNat?, Option.ite_none_right_eq_some, Bool.and_eq_true,
    Bool.not_eq_true', List.isEmpty_eq_false_iff, List.all_eq_true, Option.some_inj, and_assoc]

theorem readWord?_eq_some_iff : readWord? s = some n ↔ SpellsWord s n := by
  rw [readWord?, Option.filter_eq_some_iff, readNat?_eq_some_iff, decide_eq_true_eq]
  constructor
  · rintro ⟨h, hle⟩
    exact ⟨h, hle⟩
  · intro h
    exact ⟨h.toSpells, h.le_maxWord⟩

theorem readWord?_eq_none_iff : readWord? s = none ↔ ∀ n, ¬ SpellsWord s n := by
  simp only [Option.eq_none_iff_forall_ne_some, ne_eq, readWord?_eq_some_iff]

theorem isBlank_of_isDigit (h : isDigit c = true) : isBlank c = false :=
  Template.isBlank_of_isIdentifierChar (isIdentifierChar_of_isDigit h)

theorem Spells.isWord (h : Spells s n) : Text.IsWord s :=
  ⟨h.ne_nil, fun c hc => isBlank_of_isDigit (h.digits c hc)⟩

theorem Spells.notMem (h : Spells s n) (hc : isDigit c = false) : c ∉ s := by
  intro hmem
  rw [h.digits c hmem] at hc
  cases hc

/-! ## The decimal text among the spellings -/

theorem spells_natText (n : Nat) : Spells (natText n) n :=
  readNat?_eq_some_iff.mp (readNat?_natText n)

theorem spellsWord_natText (h : n ≤ maxWord) : SpellsWord (natText n) n :=
  ⟨spells_natText n, h⟩

theorem digitValue_lt (h : isDigit c = true) : digitValue c < 10 := by
  have hc := toNat_of_isDigit h
  rw [digitValue, show '0'.toNat = 48 from rfl]
  omega

theorem natText_digitValue (h : isDigit c = true) : natText (digitValue c) = [c] := by
  have hlt := digitValue_lt h
  have hchar : (digitValue c).digitChar = c := by
    refine Char.toNat_inj.mp ?_
    rw [Nat.toNat_digitChar_of_lt_ten hlt, digitValue, show '0'.toNat = 48 from rfl]
    exact Nat.add_sub_cancel' (toNat_of_isDigit h).1
  rw [natText, Nat.toDigits_of_lt_base hlt, hchar]

theorem natText_concat (hn : 0 < n) (h : isDigit c = true) :
    natText (10 * n + digitValue c) = natText n ++ [c] := by
  rw [← natText_digitValue h, natText,
    ← Nat.toDigits_append_toDigits (by decide) hn (digitValue_lt h)]
  rfl

/-- A spelling is the decimal text with zeros in front. -/
theorem Spells.exists_zeros (h : Spells s n) :
    ∃ k, s = List.replicate k '0' ++ natText n := by
  rw [spells_iff_digitsValue] at h
  obtain ⟨hne, hall, hvalue⟩ := h
  induction s using List.reverseRecOn generalizing n with
  | nil => exact absurd rfl hne
  | append_singleton s c ih =>
      have hc := hall c (List.mem_concat_self)
      rw [digitsValue_concat] at hvalue
      by_cases hs : s = []
      · subst hs
        refine ⟨0, ?_⟩
        rw [← hvalue, show digitsValue [] = 0 from rfl, Nat.mul_zero, Nat.zero_add,
          natText_digitValue hc]
        rfl
      · obtain ⟨k, hk⟩ := ih hs (fun d hd => hall d (List.mem_append_left _ hd)) rfl
        rcases Nat.eq_zero_or_pos (digitsValue s) with hzero | hpos
        · -- The digit before the last is a zero of its own, and joins the others.
          rw [hzero] at hk hvalue
          refine ⟨k + 1, ?_⟩
          rw [hk, ← hvalue, Nat.mul_zero, Nat.zero_add, natText_digitValue hc,
            List.replicate_succ', natText, Nat.toDigits_zero]
        · refine ⟨k, ?_⟩
          rw [← hvalue, natText_concat hpos hc, ← List.append_assoc, ← hk]

theorem Spells.natText_sublist (h : Spells s n) : (natText n).Sublist s := by
  obtain ⟨k, rfl⟩ := h.exists_zeros
  exact List.sublist_append_right _ _

/-- The decimal text has a zero in front only if it is zero itself. -/
theorem eq_nil_of_natText_eq_cons (h : natText n = '0' :: s) : s = [] := by
  by_contra hne
  have hspells : Spells s n := by
    have hcons := spells_natText n
    rw [h, spells_iff_digitsValue] at hcons
    obtain ⟨-, hall, hvalue⟩ := hcons
    exact spells_iff_digitsValue.mpr ⟨hne, (List.forall_mem_cons.mp hall).2, hvalue⟩
  have hlength := hspells.natText_sublist.length_le
  rw [h, List.length_cons] at hlength
  omega

end

end Explainer
