import Explainer.Proofs.RegexSearch
import Explainer.Proofs.TagSearch
import Explainer.Template.Pattern

/-!
# The standard tags are those of their patterns

The two standard families of tags are written as patterns and searched for
directly. Any other pattern is compiled and its program searched for. Here the
two meet: the program of a standard pattern, wherever it is started, finds
exactly the tags that the direct search finds, with their expressions.

The pattern of a family is an opening bracket of two characters, a group of
one or more characters on one line that prefers to stop, and a closing bracket
of two characters. Its program walks the text as `expressionBefore?` does: a
character is taken, then the closing bracket is tried, and only where it does
not stand the next character is taken.
-/

namespace Explainer

namespace Regex

theorem CharSet.contains_single_iff {a c : Char} :
    (CharSet.single a).contains c = true ↔ a = c := by
  simp only [single, contains, inRanges, List.any_cons, List.any_nil, Bool.or_false,
    Bool.and_eq_true, decide_eq_true_eq]
  constructor
  · intro h
    exact Char.toNat_inj.mp (Nat.le_antisymm h.1 h.2)
  · rintro rfl
    exact ⟨Nat.le_refl _, Nat.le_refl _⟩

namespace Program

variable {p : Program} {text : Text} {i j q : Nat} {slots : Slots} {r : Option Thread}

/-- One character of a word, with the rest of the word behind it. -/
theorem yields_literal {a : Char} {w : Text}
    (hi : p.code[i]? = some (.char (.single a) j))
    (h : p.Yields text.toArray ⟨j, q + 1, slots⟩
      (if w.isPrefixOf (text.drop (q + 1)) then r else none)) :
    p.Yields text.toArray ⟨i, q, slots⟩
      (if (a :: w).isPrefixOf (text.drop q) then r else none) := by
  rw [List.drop_eq_getElem?_toList_append]
  cases hq : text[q]? with
  | none =>
      have hdrop : text.drop (q + 1) = [] := by
        rw [List.getElem?_eq_none_iff] at hq
        exact List.drop_eq_nil_of_le (by omega)
      rw [hdrop]
      exact yields_char_none hi (by simp [hq])
  | some c =>
      rw [Option.toList_some, List.singleton_append, List.isPrefixOf_cons_cons]
      by_cases hc : a = c
      · subst hc
        rw [beq_self_eq_true, Bool.true_and]
        exact yields_char hi (by simp [hq]) (CharSet.contains_single_iff.mpr rfl) h
      · rw [beq_eq_false_iff_ne.mpr hc, Bool.false_and, if_neg Bool.false_ne_true]
        refine yields_char_none hi fun d hd => ?_
        rw [List.getElem?_toArray, hq] at hd
        cases hd
        rwa [CharSet.contains_single_iff]

theorem yields_pair {a b : Char} {k : Nat}
    (hi : p.code[i]? = some (.char (.single a) j))
    (hj : p.code[j]? = some (.char (.single b) k))
    (h : p.Yields text.toArray ⟨k, q + 2, slots⟩ r) :
    p.Yields text.toArray ⟨i, q, slots⟩
      (if [a, b].isPrefixOf (text.drop q) then r else none) :=
  yields_literal hi (yields_literal (w := []) hj h)

end Program

end Regex

namespace Template

open Regex Regex.Program

/-- The expression of the patterns for bracketed tags. -/
def tagRegex (o₁ o₂ c₁ c₂ : Char) : Regex :=
  .seq (.char (.single o₁)) (.seq (.char (.single o₂))
    (.seq (.group 1 (.many 1 none false (.char (.complement (.single '\n')))))
      (.seq (.char (.single c₁)) (.char (.single c₂)))))

/-- Its program, the end of the tag first: instruction 5 takes a character of
the expression, and instruction 4 prefers to close the tag behind it. -/
def tagProgram (o₁ o₂ c₁ c₂ : Char) : Program where
  code := #[
    .accept,
    .char (.single c₂) 0,
    .char (.single c₁) 1,
    .save 3 2,
    .split 3 5,
    .char (.complement (.single '\n')) 4,
    .save 2 5,
    .char (.single o₂) 6,
    .char (.single o₁) 7]
  start := 8

theorem ofRegex_tagRegex (o₁ o₂ c₁ c₂ : Char) :
    ofRegex (tagRegex o₁ o₂ c₁ c₂) = tagProgram o₁ o₂ c₁ c₂ := rfl

section

variable {o₁ o₂ c₁ c₂ : Char} {text : Text}

/-- Behind the expression the program closes the tag, if it can. -/
theorem yields_closing (q : Nat) (slots : Slots) :
    (tagProgram o₁ o₂ c₁ c₂).Yields text.toArray ⟨3, q, slots⟩
      (if [c₁, c₂].isPrefixOf (text.drop q) then some ⟨0, q + 2, (3, q) :: slots⟩
        else none) :=
  yields_save rfl (yields_pair rfl rfl (yields_accept rfl))

/-- From the place where a character of the expression is taken, the program
finds the shortest expression and its closing bracket. -/
theorem yields_expression : ∀ {rest : Text} {q : Nat} {slots : Slots},
    text.drop q = rest →
      (tagProgram o₁ o₂ c₁ c₂).Yields text.toArray ⟨5, q, slots⟩
        ((Delimiter.expressionBefore? [c₁, c₂] rest).map fun e =>
          ⟨0, q + e.length + 2, (3, q + e.length) :: slots⟩) := by
  intro rest
  induction rest with
  | nil =>
      intro q slots hrest
      have hq : text[q]? = none := by rw [← List.head?_drop, hrest]; rfl
      exact yields_char_none rfl (by simp [hq])
  | cons c rest ih =>
      intro q slots hrest
      have hq : text[q]? = some c := by rw [← List.head?_drop, hrest]; rfl
      have hrest' : text.drop (q + 1) = rest := by rw [← List.tail_drop, hrest]; rfl
      rw [Delimiter.expressionBefore?]
      by_cases hc : c = '\n'
      · rw [if_pos hc]
        refine yields_char_none rfl fun d hd => ?_
        rw [List.getElem?_toArray, hq] at hd
        cases hd
        simp [CharSet.contains, CharSet.contains_single_iff.mpr hc.symm]
      · have hset : (CharSet.complement (.single '\n')).contains c = true := by
          rw [CharSet.contains, Bool.not_eq_true', ← Bool.not_eq_true,
            CharSet.contains_single_iff]
          exact Ne.symm hc
        rw [if_neg hc]
        -- the character is taken; behind it the tag is closed, or else there is more
        have hbehind : (tagProgram o₁ o₂ c₁ c₂).Yields text.toArray ⟨4, q + 1, slots⟩ _ :=
          yields_split rfl (yields_closing (q + 1) slots) (ih hrest')
        convert yields_char (i := 5) rfl (by simp [hq]) hset hbehind using 1
        rw [hrest']
        split
        · rfl
        · rw [Option.none_or, Option.map_map]
          congr 1
          funext e
          simp only [Function.comp_apply, List.length_cons]
          rw [show q + (e.length + 1) = q + 1 + e.length by omega]

theorem yields_tag (q : Nat) :
    (tagProgram o₁ o₂ c₁ c₂).Yields text.toArray ⟨8, q, []⟩
      ((Delimiter.bracketedAt? [o₁, o₂] [c₁, c₂] (text.drop q)).map fun e =>
        ⟨0, q + 2 + e.length + 2, [(3, q + 2 + e.length), (2, q + 2)]⟩) := by
  have hinside : (tagProgram o₁ o₂ c₁ c₂).Yields text.toArray ⟨6, q + 2, []⟩ _ :=
    yields_save rfl (yields_expression rfl)
  have htag : (tagProgram o₁ o₂ c₁ c₂).Yields text.toArray ⟨8, q, []⟩ _ :=
    yields_pair rfl rfl hinside
  rw [Delimiter.bracketedAt?, List.drop_drop]
  convert htag using 1
  split <;> rfl

namespace Delimiter

theorem bracketedAt?_nil (opening closing : Text) :
    bracketedAt? opening closing [] = none :=
  bracketedAt?_eq_none_iff.mpr (not_startsTag_nil opening closing)

/-- The direct search asks one position after the other. -/
theorem bracketedFrom?_eq_findSome? {opening closing : Text} :
    ∀ {rest : Text} {pos : Nat}, text.drop pos = rest →
      bracketedFrom? opening closing pos rest =
        (List.range' pos (text.length + 1 - pos)).findSome? fun q =>
          (bracketedAt? opening closing (text.drop q)).map
            (occurrenceAt opening closing q) := by
  intro rest
  induction rest with
  | nil =>
      intro pos hrest
      symm
      rw [bracketedFrom?, List.findSome?_eq_none_iff]
      intro q hq
      have hle : text.length ≤ q :=
        Nat.le_trans (List.drop_eq_nil_iff.mp hrest) (List.mem_range'_1.mp hq).1
      rw [List.drop_eq_nil_of_le hle, bracketedAt?_nil]
      rfl
  | cons c rest ih =>
      intro pos hrest
      have hrest' : text.drop (pos + 1) = rest := by rw [← List.tail_drop, hrest]; rfl
      have hlt : pos < text.length := by
        have hlength := congrArg List.length hrest
        rw [List.length_drop, List.length_cons] at hlength
        omega
      rw [show text.length + 1 - pos = text.length + 1 - (pos + 1) + 1 by omega,
        List.range'_succ, List.findSome?_cons, hrest, bracketedFrom?]
      cases bracketedAt? opening closing (c :: rest) with
      | some e => rfl
      | none => exact ih hrest'

/-- A pattern that reads as two characters, a group for the expression and two
characters means the tags between those brackets. -/
theorem ofPattern_bracketed {pattern : Text}
    (hparse : Regex.parse? pattern = some (tagRegex o₁ o₂ c₁ c₂)) :
    ofPattern pattern = .ok (bracketed pattern [o₁, o₂] [c₁, c₂]) := by
  have hclosed : (tagProgram o₁ o₂ c₁ c₂).Closed :=
    ofRegex_tagRegex o₁ o₂ c₁ c₂ ▸ closed_ofRegex _
  have hprogram : ofRegex? (tagRegex o₁ o₂ c₁ c₂) = some (tagProgram o₁ o₂ c₁ c₂) := rfl
  have hsearch : ofProgram pattern (tagProgram o₁ o₂ c₁ c₂)
      = bracketed pattern [o₁, o₂] [c₁, c₂] := by
    rw [ofProgram, bracketed]
    congr 1
    funext text pos
    rw [search_eq hclosed (fun q _ => yields_tag q),
      bracketedFrom?_eq_findSome? rfl, List.map_findSome?]
    congr 1
    funext q
    simp only [foundAt, Function.comp_apply, Option.map_map]
    congr 1
  rw [ofPattern, hparse]
  simp only [hprogram, hsearch]
  rfl

end Delimiter

end

/-- Given as patterns, the standard delimiters are the standard ones. -/
theorem Delimiters.ofPatterns_standard :
    Delimiters.ofPatterns (some Delimiter.doubleBraces.pattern)
        (some Delimiter.percentBrackets.pattern) = .ok .standard := by
  have hbraces : Regex.parse? Delimiter.doubleBraces.pattern
      = some (tagRegex '{' '{' '}' '}') := rfl
  have hbrackets : Regex.parse? Delimiter.percentBrackets.pattern
      = some (tagRegex '[' '%' '%' ']') := rfl
  simp only [Delimiters.ofPatterns, Delimiter.ofPattern_bracketed hbraces,
    Delimiter.ofPattern_bracketed hbrackets]
  rfl

end Template

end Explainer
