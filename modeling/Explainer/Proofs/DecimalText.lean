import Explainer.Json.Path
import Explainer.Proofs.EscapedText
import Explainer.Proofs.FieldPath

/-!
# Numbers written in decimal

The decimal text of a number is a non-empty run of digits that reads back as
the number. Digits are plain characters in every setting of this library:
they make an identifier, and nothing of them is escaped in markup.
-/

namespace Explainer

theorem isDigit_of_mem_natText {n : Nat} {c : Char} (h : c ∈ natText n) :
    isDigit c = true := by
  have hdigit := Nat.isDigit_of_mem_toDigits (by decide) (by decide) h
  rw [Char.isDigit_iff_toNat] at hdigit
  rw [isDigit, Bool.and_eq_true, decide_eq_true_eq, decide_eq_true_eq]
  exact hdigit

theorem natText_ne_nil (n : Nat) : natText n ≠ [] := Nat.toDigits_ne_nil

theorem digitsValue_natText (n : Nat) : digitsValue (natText n) = n := by
  have h := Nat.ofDigitChars_ten_toDigits (n := n)
  rwa [Nat.ofDigitChars_eq_foldl] at h

theorem readNat?_natText (n : Nat) : readNat? (natText n) = some n := by
  have hne : (natText n).isEmpty = false := List.isEmpty_eq_false_iff.mpr (natText_ne_nil n)
  have hall : (natText n).all isDigit = true :=
    List.all_eq_true.mpr fun c hc => isDigit_of_mem_natText hc
  rw [readNat?, hne, hall, digitsValue_natText]
  rfl

theorem readWord?_natText {n : Nat} (h : n ≤ maxWord) : readWord? (natText n) = some n := by
  rw [readWord?, readNat?_natText, Option.filter_some, if_pos (by simpa using h)]

/-- An index is found under its decimal text. -/
theorem readIndex?_natText {n : Nat} (h : n ≤ maxWord) :
    readIndex? (natText n) = some n := by
  unfold readIndex?
  split
  · next digits heq =>
      have hplus := isDigit_of_mem_natText (heq ▸ List.mem_cons_self : '+' ∈ natText n)
      exact absurd hplus (by decide)
  · exact readWord?_natText h

theorem toNat_of_isDigit {c : Char} (h : isDigit c = true) :
    48 ≤ c.toNat ∧ c.toNat ≤ 57 := by
  rw [isDigit, Bool.and_eq_true, decide_eq_true_eq, decide_eq_true_eq] at h
  exact h

theorem isIdentifierChar_of_isDigit {c : Char} (h : isDigit c = true) :
    Template.isIdentifierChar c = true := by
  have hc := toNat_of_isDigit h
  have halpha : isAlphanumeric c = true := by
    rw [isAlphanumeric, if_pos (by omega)]
    have hdigit : c.isDigit = true := Char.isDigit_iff_toNat.mpr hc
    rw [Char.isAlphanum, hdigit, Bool.or_true]
  rw [Template.isIdentifierChar, halpha]
  rfl

theorem isIdentifier_natText (n : Nat) : Template.isIdentifier (natText n) = true :=
  Template.isIdentifier_iff.mpr
    ⟨natText_ne_nil n, fun _ hc => isIdentifierChar_of_isDigit (isDigit_of_mem_natText hc)⟩

namespace Markup

theorem entity?_of_isDigit {c : Char} (h : isDigit c = true) : entity? c = none := by
  have hne : ∀ d : Char, isDigit d = false → c ≠ d := by
    rintro d hd rfl
    rw [h] at hd
    cases hd
  rw [entity?, if_neg (hne _ (by decide)), if_neg (hne _ (by decide)),
    if_neg (hne _ (by decide)), if_neg (hne _ (by decide)), if_neg (hne _ (by decide)),
    if_neg (hne _ (by decide))]

theorem escape_natText (n : Nat) : escape (natText n) = natText n :=
  escape_eq_self fun _ hc => entity?_of_isDigit (isDigit_of_mem_natText hc)

end Markup

end Explainer
