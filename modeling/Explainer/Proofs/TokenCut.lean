import Explainer.Proofs.TagSearch
import Explainer.Template.Printer
import Mathlib.Data.List.Chain

/-!
# How the standard tags cut a template

Cutting a template interleaves two searches, each asked again behind every
tag, and it keeps positions in the whole template throughout. `Cut` is the
same cut without searches and without positions: in front of the first tag of
either family there is text, then comes the tag, and behind it the cut goes
on with what is left; where there is no more tag, the rest is text.

That every template has a cut and that its tokens are that cut is the first
half of this file. The second half reads off from the cut what it is good
for. The tokens spell the template, so that nothing is lost or doubled. Text
is never empty and never next to text. What a tag captures is the shortest
expression on its line. And at no position of a text does a tag start, in the
template as a whole and not only in that text: none is skipped, and an
opening bracket without its partner on the same line is left as it stands.
-/

namespace Explainer.Template

/-- The two families of tags. -/
inductive Family where
  | interpolation
  | directive

namespace Family

def opening : Family → Text
  | interpolation => ['{', '{']
  | directive => ['[', '%']

def closing : Family → Text
  | interpolation => ['}', '}']
  | directive => ['%', ']']

/-- A tag as it is written. -/
def tag (f : Family) (e : Text) : Text := f.opening ++ e ++ f.closing

/-- A tag as a token. -/
def token : Family → Text → Token
  | interpolation => .escape
  | directive => .evaluate

def isEscape : Family → Bool
  | interpolation => true
  | directive => false

/-- The first tag of the family in a text that stands at a position. -/
def first? (f : Family) (pos : Nat) (s : Text) : Option Occurrence :=
  Delimiter.bracketedFrom? f.opening f.closing pos s

@[simp] theorem print_token (f : Family) (e : Text) :
    (f.token e).print = f.tag e := by
  cases f <;> rfl

theorem length_tag_pos (f : Family) (e : Text) : 0 < (f.tag e).length := by
  cases f <;> exact Nat.succ_pos _

/-- A tag starts with the bracket of its own family only. -/
theorem eq_of_startsTag {f g : Family} {e rest : Text}
    (h : StartsTag f.opening f.closing (g.tag e ++ rest)) : f = g := by
  obtain ⟨e', rest', _, _, heq⟩ := h
  cases f <;> cases g <;> first | rfl | (injection heq with hc; cases hc)

end Family

/-- A complete tag of either family stands at the front of the text. -/
def StartsAnyTag (s : Text) : Prop :=
  ∃ f : Family, StartsTag f.opening f.closing s

theorem not_startsAnyTag_nil : ¬ StartsAnyTag [] :=
  fun ⟨f, h⟩ => not_startsTag_nil f.opening f.closing h

/-- The token of a text that may be empty. -/
def plain (t : Text) : List Token := if t = [] then [] else [.text t]

/-- The cut of a text into tokens, from its first tag on. -/
inductive Cut : Text → List Token → Prop
  | rest {t : Text} (h : ∀ k, ¬ StartsAnyTag (t.drop k)) : Cut t (plain t)
  | tag {f : Family} {gap e s : Text} {ts : List Token}
      (hgap : ∀ k < gap.length, ¬ StartsAnyTag ((gap ++ (f.tag e ++ s)).drop k))
      (he : IsExpression f.closing e) (hs : Cut s ts) :
      Cut (gap ++ (f.tag e ++ s)) (plain gap ++ f.token e :: ts)

/-! ## Every text has a cut -/

theorem exists_cut (n : Nat) :
    ∀ {s : Text}, s.length ≤ n → ∃ ts, Cut s ts := by
  induction n with
  | zero =>
      intro s hs
      refine ⟨_, .rest fun k => ?_⟩
      rw [List.length_eq_zero_iff.mp (Nat.le_zero.mp hs), List.drop_nil]
      exact not_startsAnyTag_nil
  | succ n ih =>
      intro s hs
      rcases exists_first StartsAnyTag s with
        hnone | ⟨gap, t, rfl, ⟨f, htag⟩, hgap⟩
      · exact ⟨_, .rest hnone⟩
      · obtain ⟨e, rest, hexp, rfl⟩ := htag.exists_expression
        have hpos := f.length_tag_pos e
        have hlen : rest.length ≤ n := by
          rw [List.length_append] at hs
          change gap.length + (f.tag e ++ rest).length ≤ n + 1 at hs
          rw [List.length_append] at hs
          omega
        obtain ⟨ts, hts⟩ := ih hlen
        exact ⟨_, .tag hgap hexp hts⟩

/-! ## The tokens of a text are its cut -/

namespace Delimiters

variable {f : Family} {pre gap e s : Text}

theorem next?_standard (pre s : Text) :
    standard.next? (pre ++ s) pre.length =
      match Family.interpolation.first? pre.length s,
        Family.directive.first? pre.length s with
      | none, none => none
      | some e, none => some (e, true)
      | none, some v => some (v, false)
      | some e, some v =>
          if e.start ≤ v.start then some (e, true) else some (v, false) := by
  simp only [next?, standard, Delimiter.doubleBraces, Delimiter.percentBrackets,
    Delimiter.bracketed, List.drop_left]
  rfl

theorem next?_standard_eq_none (h : ∀ k, ¬ StartsAnyTag (s.drop k)) :
    standard.next? (pre ++ s) pre.length = none := by
  have hnone : ∀ g : Family, g.first? pre.length s = none :=
    fun g => Delimiter.bracketedFrom?_eq_none _ fun k hk => h k ⟨g, hk⟩
  rw [next?_standard, hnone, hnone]

theorem next?_standard_eq_some
    (hgap : ∀ k < gap.length, ¬ StartsAnyTag ((gap ++ (f.tag e ++ s)).drop k))
    (he : IsExpression f.closing e) :
    standard.next? (pre ++ (gap ++ (f.tag e ++ s))) pre.length
      = some (Delimiter.occurrenceAt f.opening f.closing (pre.length + gap.length) e,
          f.isEscape) := by
  have hfound : f.first? pre.length (gap ++ (f.tag e ++ s))
      = some (Delimiter.occurrenceAt f.opening f.closing (pre.length + gap.length) e) :=
    Delimiter.bracketedFrom?_append he _ fun k hk h => hgap k hk ⟨f, h⟩
  -- The other family has no tag up to this one, and none in its place.
  have hother : ∀ (g : Family) (m : Occurrence), g ≠ f →
      g.first? pre.length (gap ++ (f.tag e ++ s)) = some m →
      pre.length + gap.length < m.start := by
    intro g m hne hm
    obtain ⟨k, hstart, htag⟩ := Delimiter.bracketedFrom?_start hm
    have hk : ¬ k < gap.length := fun hlt => hgap k hlt ⟨g, htag⟩
    have hk' : k ≠ gap.length := by
      rintro rfl
      rw [List.drop_left] at htag
      exact hne (Family.eq_of_startsTag htag)
    omega
  rw [next?_standard]
  cases f with
  | interpolation =>
      rw [hfound]
      cases hv : Family.directive.first? pre.length (gap ++ (Family.tag _ e ++ s)) with
      | none => rfl
      | some m => exact if_pos (Nat.le_of_lt (hother _ m (by simp) hv))
  | directive =>
      rw [hfound]
      cases hv : Family.interpolation.first? pre.length (gap ++ (Family.tag _ e ++ s)) with
      | none => rfl
      | some m => exact if_neg (Nat.not_le_of_lt (hother _ m (by simp) hv))

theorem cut_append (a b c : Text) :
    cut (a ++ (b ++ c)) a.length (a.length + b.length) = b := by
  rw [cut, List.drop_left, Nat.add_sub_cancel_left, List.take_left]

theorem gap_append (a b c : Text) :
    Delimiters.gap (a ++ (b ++ c)) a.length (a.length + b.length) = plain b := by
  rw [Delimiters.gap, cut_append, plain]
  by_cases hb : b = []
  · subst hb
    exact if_neg (Nat.lt_irrefl _)
  · have hpos := List.length_pos_of_ne_nil hb
    rw [if_pos (by omega), if_neg hb]

theorem tag_occurrenceAt :
    Delimiters.tag (Delimiter.occurrenceAt f.opening f.closing (pre.length + gap.length) e)
      f.isEscape (pre ++ (gap ++ (f.tag e ++ s))) = f.token e := by
  have hcut := cut_append (pre ++ gap ++ f.opening) e (f.closing ++ s)
  have hassoc : pre ++ gap ++ f.opening ++ (e ++ (f.closing ++ s))
      = pre ++ (gap ++ (f.tag e ++ s)) := by
    simp only [Family.tag, List.append_assoc]
  rw [hassoc, List.length_append, List.length_append] at hcut
  simp only [Delimiters.tag, Delimiter.occurrenceAt, Occurrence.expressionText, hcut]
  cases f <;> rfl

theorem tokensFrom_rest (h : ∀ k, ¬ StartsAnyTag (s.drop k)) :
    standard.tokensFrom (pre ++ s) pre.length = plain s := by
  rw [tokensFrom, next?_standard_eq_none h, plain]
  by_cases hs : s = []
  · subst hs
    rw [List.append_nil, dif_neg (Nat.lt_irrefl _), if_pos rfl]
  · have hpos := List.length_pos_of_ne_nil hs
    rw [dif_pos (by rw [List.length_append]; omega), if_neg hs, List.drop_left]

theorem tokensFrom_tag
    (hgap : ∀ k < gap.length, ¬ StartsAnyTag ((gap ++ (f.tag e ++ s)).drop k))
    (he : IsExpression f.closing e) :
    standard.tokensFrom (pre ++ (gap ++ (f.tag e ++ s))) pre.length
      = plain gap ++ f.token e ::
          standard.tokensFrom (pre ++ gap ++ f.tag e ++ s)
            (pre ++ gap ++ f.tag e).length := by
  have hstop : (Delimiter.occurrenceAt f.opening f.closing
      (pre.length + gap.length) e).stop = (pre ++ gap ++ f.tag e).length := by
    simp only [Delimiter.occurrenceAt, Family.tag, List.length_append]
    omega
  have htag := f.length_tag_pos e
  have hbefore : pre.length < (pre ++ (gap ++ (f.tag e ++ s))).length := by
    simp only [List.length_append]
    omega
  have hbehind : pre.length < (pre ++ gap ++ f.tag e).length := by
    simp only [List.length_append]
    omega
  have hassoc : pre ++ gap ++ f.tag e ++ s = pre ++ (gap ++ (f.tag e ++ s)) := by
    simp only [List.append_assoc]
  rw [tokensFrom, dif_pos hbefore, next?_standard_eq_some hgap he, hassoc]
  simp only [hstop]
  rw [dif_pos hbehind, tag_occurrenceAt]
  show Delimiters.gap _ _ (pre.length + gap.length) ++ _ = _
  rw [gap_append]

/-- Wherever in a template a text stands, cutting on from there is its cut. -/
theorem tokensFrom_of_cut {ts : List Token} (h : Cut s ts) :
    ∀ pre : Text, standard.tokensFrom (pre ++ s) pre.length = ts := by
  induction h with
  | rest hnone => intro pre; exact tokensFrom_rest hnone
  | @tag f gap e s ts hgap he _ ih =>
      intro pre
      rw [tokensFrom_tag hgap he, ih]

theorem tokens_of_cut {ts : List Token} (h : Cut s ts) :
    standard.tokens s = ts := tokensFrom_of_cut h []

theorem cut_tokens (s : Text) : Cut s (standard.tokens s) := by
  obtain ⟨ts, h⟩ := exists_cut s.length (Nat.le_refl _)
  rwa [tokens_of_cut h]

end Delimiters

/-! ## What a cut is good for -/

/-- Whether the token is text. -/
def Token.isText : Token → Bool
  | .text _ => true
  | _ => false

@[simp] theorem Family.isText_token (f : Family) (e : Text) :
    (f.token e).isText = false := by
  cases f <;> rfl

theorem Family.token_ne_text (f : Family) (e t : Text) : f.token e ≠ .text t := by
  intro h
  have htext := congrArg Token.isText h
  rw [isText_token] at htext
  cases htext

theorem Family.token_inj {f g : Family} {e d : Text}
    (h : f.token e = g.token d) : f = g ∧ e = d := by
  cases f <;> cases g <;> cases h <;> exact ⟨rfl, rfl⟩

@[simp] theorem flatMap_print_plain (t : Text) :
    (plain t).flatMap Token.print = t := by
  rw [plain]
  split
  · next ht => rw [ht, List.flatMap_nil]
  · rw [List.flatMap_singleton, Token.print]

theorem eq_of_plain_eq_append {tok : Token} {t : Text} {before after : List Token}
    (h : plain t = before ++ tok :: after) : before = [] ∧ tok = .text t := by
  rw [plain] at h
  split at h
  · rw [List.nil_eq_append_iff] at h
    cases h.2
  · cases before with
    | nil => cases h; exact ⟨rfl, rfl⟩
    | cons b before =>
        rw [List.cons_append, List.cons.injEq, List.nil_eq_append_iff] at h
        cases h.2.2

theorem mem_plain {tok : Token} {t : Text} (h : tok ∈ plain t) :
    tok = .text t ∧ t ≠ [] := by
  rw [plain] at h
  split at h
  · cases h
  · next ht => exact ⟨List.mem_singleton.mp h, ht⟩

theorem text_nil_notMem_plain (t : Text) : .text [] ∉ plain t := by
  intro h
  obtain ⟨heq, hne⟩ := mem_plain h
  cases heq
  exact hne rfl

namespace Cut

variable {s : Text} {ts : List Token}

theorem flatMap_print (h : Cut s ts) : ts.flatMap Token.print = s := by
  induction h with
  | rest _ => exact flatMap_print_plain _
  | @tag f gap e s ts _ _ _ ih =>
      rw [List.flatMap_append, List.flatMap_cons, flatMap_print_plain,
        Family.print_token, ih]

theorem text_nil_notMem (h : Cut s ts) : .text [] ∉ ts := by
  induction h with
  | rest _ => exact text_nil_notMem_plain _
  | @tag f gap e s ts _ _ _ ih =>
      intro hmem
      rcases List.mem_append.mp hmem with hmem | hmem
      · exact text_nil_notMem_plain gap hmem
      · rcases List.mem_cons.mp hmem with heq | hmem
        · exact f.token_ne_text e [] heq.symm
        · exact ih hmem

theorem texts_apart (h : Cut s ts) :
    ts.IsChain fun a b => ¬ (a.isText ∧ b.isText) := by
  induction h with
  | @rest t _ =>
      rw [plain]
      split
      · exact .nil
      · exact .singleton _
  | @tag f gap e s ts _ _ _ ih =>
      have htail : (f.token e :: ts).IsChain fun a b => ¬ (a.isText ∧ b.isText) := by
        rw [List.isChain_cons]
        exact ⟨fun b _ => by simp, ih⟩
      rw [plain]
      split
      · exact htail
      · rw [List.singleton_append, List.isChain_cons_cons]
        exact ⟨by simp, htail⟩

theorem isExpression_of_mem (h : Cut s ts) (g : Family) (d : Text) :
    g.token d ∈ ts → IsExpression g.closing d := by
  induction h with
  | rest _ => intro hmem; exact absurd (mem_plain hmem).1 (g.token_ne_text d _)
  | @tag f gap e s ts _ he _ ih =>
      intro hmem
      rcases List.mem_append.mp hmem with hmem | hmem
      · exact absurd (mem_plain hmem).1 (g.token_ne_text d _)
      · rcases List.mem_cons.mp hmem with heq | hmem
        · obtain ⟨rfl, rfl⟩ := Family.token_inj heq
          exact he
        · exact ih hmem

theorem not_startsAnyTag (h : Cut s ts) :
    ∀ {before after : List Token} {t : Text}, ts = before ++ .text t :: after →
      ∀ k < t.length,
        ¬ StartsAnyTag (s.drop ((before.flatMap Token.print).length + k)) := by
  induction h with
  | @rest s hnone =>
      intro before after t hsplit k _
      obtain ⟨rfl, _⟩ := eq_of_plain_eq_append hsplit
      exact hnone _
  | @tag f gap e s ts hgap _ _ ih =>
      intro before after t hsplit k hk
      rcases List.append_eq_append_iff.mp hsplit with
        ⟨mid, hbefore, htail⟩ | ⟨mid, hplain, htail⟩
      · cases mid with
        | nil => exact absurd (List.cons.inj htail).1 (f.token_ne_text e t)
        | cons b mid =>
            -- The text stands behind the tag, so the rest of the cut decides.
            obtain ⟨rfl, hts⟩ := List.cons.inj htail
            have hdrop := ih hts k hk
            rw [hbefore, List.flatMap_append, List.flatMap_cons,
              flatMap_print_plain, Family.print_token]
            simp only [List.length_append, Nat.add_assoc, List.drop_length_add_append]
            exact hdrop
      · cases mid with
        | nil => exact absurd (List.cons.inj htail).1.symm (f.token_ne_text e t)
        | cons b mid =>
            obtain ⟨rfl, _⟩ := List.cons.inj htail
            obtain ⟨rfl, htext⟩ := eq_of_plain_eq_append hplain
            cases htext
            rw [List.flatMap_nil, List.length_nil, Nat.zero_add]
            exact hgap k hk

end Cut

namespace Delimiters

/-- Under the standard tags the tokens of a template are all of it and no
more. They spell the template; no text is empty and no two texts touch; what
a tag captures is an expression, which is the shortest that its brackets
admit; and inside a text no tag starts, neither one of double braces nor one
of percent brackets, whatever follows in the template. -/
theorem tokens_standard_tile (s : Text) :
    (standard.tokens s).flatMap Token.print = s ∧
    (.text [] ∉ standard.tokens s ∧
      (standard.tokens s).IsChain fun a b => ¬ (a.isText ∧ b.isText)) ∧
    ((∀ e, .escape e ∈ standard.tokens s → IsExpression ['}', '}'] e) ∧
      ∀ e, .evaluate e ∈ standard.tokens s → IsExpression ['%', ']'] e) ∧
    ∀ before t after, standard.tokens s = before ++ .text t :: after →
      ∀ k < t.length,
        ¬ StartsTag ['{', '{'] ['}', '}']
            (s.drop ((before.flatMap Token.print).length + k)) ∧
        ¬ StartsTag ['[', '%'] ['%', ']']
            (s.drop ((before.flatMap Token.print).length + k)) := by
  have h := cut_tokens s
  refine ⟨h.flatMap_print, ⟨h.text_nil_notMem, h.texts_apart⟩,
    ⟨h.isExpression_of_mem .interpolation, h.isExpression_of_mem .directive⟩, ?_⟩
  intro before t after hsplit k hk
  have hnot := h.not_startsAnyTag hsplit k hk
  exact ⟨fun htag => hnot ⟨.interpolation, htag⟩,
    fun htag => hnot ⟨.directive, htag⟩⟩

example : standard.tokens "[%\n%][%a[%b%]%]".toList
    = [.text "[%\n%]".toList, .evaluate "a[%b".toList, .text "%]".toList] := by cbv

end Delimiters

end Explainer.Template
