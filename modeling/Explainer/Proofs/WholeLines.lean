import Explainer.Proofs.RenderRounds
import Explainer.Proofs.TokenCut
import Explainer.Proofs.TreePrefix

/-!
# Templates that end with their line compose

A tag stays on its line. So a template that ends with a newline, put in front
of another one, is cut as it is cut alone, and so is the other one; the only
trace of the seam is that text which ends at it and text which begins at it
become one. If each of the two can be read, the whole renders as the one
rendering behind the other, and a loop of the first binds nothing in the
second.

The cut is where something could go wrong, since the search for a tag looks at
all of the rest: a bracket that stays open in the first template might find
its partner in the second. It would have to pass the newline before the seam,
and a tag holds no newline (`StartsAnyTag.of_append`). The rest is bookkeeping
on the relation `Cut`, on the machine of the tree reader, which is back at an
empty stack behind a template that can be read, and on `renderAll`, which
takes one list behind the other.
-/

namespace Explainer

/-- The text is empty or ends with a newline. -/
def Text.WholeLines (s : Text) : Prop := ∀ c ∈ s.getLast?, c = '\n'

theorem Text.WholeLines.drop {s : Text} (h : s.WholeLines) (k : Nat) :
    Text.WholeLines (s.drop k) := by
  intro c hc
  rw [List.getLast?_drop] at hc
  split at hc
  · cases hc
  · exact h c hc

theorem Text.WholeLines.newline_mem {s : Text} (h : s.WholeLines)
    (hne : s ≠ []) : '\n' ∈ s := by
  have hlast := h _ (List.getLast?_eq_some_getLast hne)
  exact hlast ▸ List.getLast_mem hne

namespace Template

/-! ## Tags do not pass the end of a line -/

theorem Family.newline_notMem_tag (f : Family) {e : Text} (he : '\n' ∉ e) :
    '\n' ∉ f.tag e := by
  cases f <;> simp [tag, opening, closing, he]

/-- A tag that starts in front of the seam is complete in front of it. -/
theorem StartsAnyTag.of_append {s t : Text} (h : StartsAnyTag (s ++ t))
    (hs : s.WholeLines) (hne : s ≠ []) : StartsAnyTag s := by
  obtain ⟨f, e, rest, he, hline, heq⟩ := h
  change s ++ t = f.tag e ++ rest at heq
  rcases List.append_eq_append_iff.1 heq with ⟨more, htag, _⟩ | ⟨more, hs', _⟩
  · have hmem : '\n' ∈ f.tag e := by
      rw [htag]
      exact List.mem_append_left _ (hs.newline_mem hne)
    exact absurd hmem (f.newline_notMem_tag hline)
  · exact ⟨f, e, more, he, hline, hs'⟩

theorem not_startsAnyTag_drop_append {s : Text} (hs : s.WholeLines) (t : Text)
    {k : Nat} (hk : k < s.length) (h : ¬ StartsAnyTag (s.drop k)) :
    ¬ StartsAnyTag ((s ++ t).drop k) := by
  rw [List.drop_append_of_le_length (Nat.le_of_lt hk)]
  intro htag
  refine h (htag.of_append (hs.drop k) ?_)
  rw [Ne, List.drop_eq_nil_iff]
  omega

/-- Text without a tag, and behind it a text with no tag up to `n`. -/
theorem not_startsAnyTag_drop_add {s t : Text} {n : Nat} (hs : s.WholeLines)
    (h : ∀ k, ¬ StartsAnyTag (s.drop k))
    (ht : ∀ k < n, ¬ StartsAnyTag (t.drop k)) :
    ∀ k < s.length + n, ¬ StartsAnyTag ((s ++ t).drop k) := by
  intro k hk
  rcases Nat.lt_or_ge k s.length with hlt | hge
  · exact not_startsAnyTag_drop_append hs t hlt (h k)
  · obtain ⟨j, rfl⟩ := Nat.exists_eq_add_of_le hge
    rw [List.drop_length_add_append]
    exact ht j (Nat.lt_of_add_lt_add_left hk)

/-! ## Tokens behind tokens -/

namespace Token

/-- One list of tokens behind another: where text meets text, it is one. -/
def join : List Token → List Token → List Token
  | [], us => us
  | [.text a], .text b :: us => .text (a ++ b) :: us
  | t :: ts, us => t :: join ts us

theorem join_token (f : Family) (e : Text) (ts us : List Token) :
    join (f.token e :: ts) us = f.token e :: join ts us := by
  cases f <;> rw [Family.token, join] <;> nofun

theorem join_plain_token (gap : Text) (f : Family) (e : Text)
    (ts us : List Token) :
    join (plain gap ++ f.token e :: ts) us
      = plain gap ++ f.token e :: join ts us := by
  rw [plain]
  split
  · exact join_token f e ts us
  · rw [List.singleton_append, join, join_token]
    · rfl
    · nofun

theorem join_plain_plain (a b : Text) (us : List Token)
    (h : ∀ x ∈ us.head?, x.isText = false) :
    join (plain a) (plain b ++ us) = plain (a ++ b) ++ us := by
  by_cases ha : a = []
  · rw [ha, plain, if_pos rfl, join, List.nil_append]
  · have hab : a ++ b ≠ [] := List.append_ne_nil_of_left_ne_nil ha b
    rw [plain, plain, plain, if_neg ha, if_neg hab]
    by_cases hb : b = []
    · rw [if_pos hb, hb, List.append_nil, List.nil_append]
      cases us with
      | nil => rfl
      | cons x us =>
          rw [join, join]
          · rfl
          · intro _ c after hx _ _
            obtain rfl := (List.cons.inj hx).1
            cases h (.text c) rfl
    · rw [if_neg hb]
      rfl

/-- Joining appends, but for the one text at the seam. -/
theorem join_cases (ts us : List Token) :
    join ts us = ts ++ us ∨
      ∃ before a b after, ts = before ++ [.text a] ∧ us = .text b :: after ∧
        join ts us = before ++ .text (a ++ b) :: after := by
  fun_induction join ts us with
  | case1 us => exact .inl rfl
  | case2 a b us => exact .inr ⟨[], a, b, us, rfl, rfl, rfl⟩
  | case3 t ts us _ ih =>
      rcases ih with heq | ⟨before, a, b, after, rfl, rfl, heq⟩
      · exact .inl (by rw [heq]; rfl)
      · exact .inr ⟨t :: before, a, b, after, rfl, rfl, by rw [heq]; rfl⟩

end Token

namespace Cut

variable {s t : Text} {ts us : List Token}

/-- Text without a tag goes in front of a cut. -/
theorem join_plain (hs : s.WholeLines) (hnone : ∀ k, ¬ StartsAnyTag (s.drop k))
    (ht : Cut t us) : Cut (s ++ t) (Token.join (plain s) us) := by
  cases ht with
  | rest h =>
      have hplain := Token.join_plain_plain s t [] nofun
      rw [List.append_nil, List.append_nil] at hplain
      rw [hplain]
      refine .rest fun k => ?_
      exact not_startsAnyTag_drop_add hs hnone (fun j _ => h j) k
        (Nat.lt_of_lt_of_le (Nat.lt_succ_self k) (Nat.le_add_left _ _))
  | @tag f gap e rest ts hgap he hrest =>
      rw [Token.join_plain_plain s gap _ (by simp), ← List.append_assoc]
      refine .tag (fun k hk => ?_) he hrest
      rw [List.length_append] at hk
      rw [List.append_assoc]
      exact not_startsAnyTag_drop_add hs hnone hgap k hk

/-- Whole lines are cut as if nothing stood behind them. -/
theorem join (h : Cut s ts) (hs : s.WholeLines) (ht : Cut t us) :
    Cut (s ++ t) (Token.join ts us) := by
  induction h with
  | rest hnone => exact join_plain hs hnone ht
  | @tag f gap e rest ts hgap he _ ih =>
      have hrest : rest.WholeLines := by
        have hdrop := hs.drop (gap.length + (f.tag e).length)
        rwa [List.drop_length_add_append, List.drop_left] at hdrop
      rw [Token.join_plain_token, List.append_assoc, List.append_assoc]
      refine .tag (fun k hk => ?_) he (ih hrest)
      have hlen : k < (gap ++ (f.tag e ++ rest)).length := by
        rw [List.length_append]
        omega
      have hnot := not_startsAnyTag_drop_append hs t hlen (hgap k hk)
      rwa [List.append_assoc, List.append_assoc] at hnot

end Cut

theorem Delimiters.tokens_append_of_wholeLines {s : Text} (hs : s.WholeLines)
    (t : Text) : standard.tokens (s ++ t)
      = Token.join (standard.tokens s) (standard.tokens t) :=
  tokens_of_cut ((cut_tokens s).join hs (cut_tokens t))

/-! ## Trees behind trees -/

namespace Reading

/-- With no block open, what is read next does not depend on what has been
read before. -/
theorem run_of_stack_nil (ms : List Node) (us : List Token) :
    run ⟨ms, []⟩ us = (Node.parse us).map (ms ++ ·) := by
  rw [Node.run_eq_resume, Node.parse_eq_resume]
  cases Node.readBlock (2 * us.length + 2) us with
  | error e => rfl
  | ok b =>
      obtain ⟨ns, stop, rest⟩ := b
      cases stop <;> rfl

theorem finish_append (r : Reading) (ns : List Node) :
    (r.append ns).finish = r.finish.map (· ++ ns) := by
  obtain ⟨nodes, stack⟩ := r
  cases stack <;> rfl

end Reading

namespace Node

open Reading

theorem parse_append {ts us : List Token} {ms : List Node}
    (h : parse ts = .ok ms) : parse (ts ++ us) = (parse us).map (ms ++ ·) := by
  rw [parse_append_of_ok h, run_of_stack_nil]

theorem parse_append_text (ts : List Token) (a : Text) :
    parse (ts ++ [.text a]) = (parse ts).map (· ++ [.text a]) := by
  rw [parse_append_eq_run, parse_eq_advance]
  cases start.advance ts with
  | error e => rfl
  | ok q => exact q.finish_append [.text a]

theorem parse_text_cons (b : Text) (us : List Token) :
    parse (.text b :: us) = (parse us).map (.text b :: ·) := by
  have hone : parse [.text b] = .ok [.text b] := rfl
  exact parse_append hone

theorem renderAll_text_append (strict : Bool) (scope : Scope) (a b : Text)
    (ns : List Node) :
    renderAll strict scope (.text (a ++ b) :: ns)
      = renderAll strict scope (.text a :: .text b :: ns) := by
  show Rendering.text (a ++ b) ++ _ = .text a ++ (.text b ++ _)
  rw [← Rendering.append_assoc]
  rfl

/-- Joined tokens make a tree that renders as the two trees in a row. -/
theorem parse_join {ts us : List Token} {ms ns : List Node}
    (hms : parse ts = .ok ms) (hns : parse us = .ok ns) :
    ∃ ls, parse (Token.join ts us) = .ok ls ∧ ∀ strict scope,
      renderAll strict scope ls
        = renderAll strict scope ms ++ renderAll strict scope ns := by
  rcases Token.join_cases ts us with heq | ⟨before, a, b, after, rfl, rfl, heq⟩
  · refine ⟨ms ++ ns, ?_, fun strict scope => renderAll_append strict scope ms ns⟩
    rw [heq, parse_append hms, hns]
    rfl
  · -- Both trees have the text at the seam as a node of its own, at the end of
    -- the one and at the beginning of the other.
    rw [parse_append_text] at hms
    rw [parse_text_cons] at hns
    cases hbefore : parse before with
    | error e => rw [hbefore] at hms; cases hms
    | ok ms' =>
        cases hafter : parse after with
        | error e => rw [hafter] at hns; cases hns
        | ok ns' =>
            rw [hbefore] at hms
            rw [hafter] at hns
            cases hms
            cases hns
            refine ⟨ms' ++ .text (a ++ b) :: ns', ?_, fun strict scope => ?_⟩
            · rw [heq, parse_append hbefore, parse_text_cons, hafter]
              rfl
            · rw [← renderAll_append, List.append_assoc, List.singleton_append,
                renderAll_append, renderAll_append, renderAll_text_append]

end Node

theorem Rendering.result_append (a b : Rendering) :
    (a ++ b).result = do
      let s ← a.result
      let t ← b.result
      return s ++ t := by
  cases ha : a.result with
  | error e => rw [append_of_error ha, ha]; rfl
  | ok s =>
      rw [append_of_ok ha]
      cases b.result <;> rfl

/-- A template of whole lines in front of another. The tokens are those of the
two, with a text at the seam made one. If the two can be read, the whole
renders as the one behind the other, with the notes of both: the texts in a row
if both are rendered, and else the error of the first that fails. -/
theorem render_wholeLines_append {s : Text} (hs : s.WholeLines) (t : Text) :
    Delimiters.standard.tokens (s ++ t)
        = Token.join (Delimiters.standard.tokens s)
            (Delimiters.standard.tokens t) ∧
      ∀ ms ns, Node.parse (Delimiters.standard.tokens s) = .ok ms →
        Node.parse (Delimiters.standard.tokens t) = .ok ns →
        ∀ strict data,
          render strict .standard (s ++ t) data
              = render strict .standard s data ++ render strict .standard t data ∧
            (render strict .standard (s ++ t) data).result = do
              let a ← (render strict .standard s data).result
              let b ← (render strict .standard t data).result
              return a ++ b := by
  have htokens := Delimiters.tokens_append_of_wholeLines hs t
  refine ⟨htokens, fun ms ns hms hns strict data => ?_⟩
  obtain ⟨ls, hls, hrender⟩ := Node.parse_join hms hns
  have hwhole : render strict .standard (s ++ t) data
      = render strict .standard s data ++ render strict .standard t data := by
    rw [render, render, render, htokens, hms, hns, hls]
    exact hrender strict ⟨data, []⟩
  exact ⟨hwhole, by rw [hwhole, Rendering.result_append]⟩

/-- A line with a bracket that stays open, and a loop on the next. -/
def openLines : Text :=
  "\x7b\x7b a\n[% for x in xs %]\x7b\x7bx\x7d\x7d;[% end %]\n".toList

/-- The bracket that would close it, and the name of the loop. -/
def nextLine : Text := "b \x7d\x7d\x7b\x7bx\x7d\x7d".toList

theorem render_wholeLines_append_openLines :
    openLines.WholeLines ∧
      ∃ ms ns, Node.parse (Delimiters.standard.tokens openLines) = .ok ms ∧
        Node.parse (Delimiters.standard.tokens nextLine) = .ok ns ∧
        (render true .standard (openLines ++ nextLine)
          (.obj [("x".toList, .str ['2']), ("xs".toList, .arr [.str ['1']])])).result
            = .ok "\x7b\x7b a\n1;\nb \x7d\x7d2".toList := by
  have hlines : openLines.WholeLines := by
    intro c hc
    have hlast : openLines.getLast? = some '\n' := by decide
    rw [hlast] at hc
    cases hc
    rfl
  have hread : ∀ t ∈ [openLines, nextLine],
      (Node.parse (Delimiters.standard.tokens t)).toOption.isSome = true := by
    decide +kernel
  have hparse : ∀ t ∈ [openLines, nextLine],
      ∃ ns, Node.parse (Delimiters.standard.tokens t) = .ok ns := by
    intro t ht
    have hsome := hread t ht
    cases hns : Node.parse (Delimiters.standard.tokens t) with
    | error e => rw [hns] at hsome; cases hsome
    | ok ns => exact ⟨ns, rfl⟩
  obtain ⟨ms, hms⟩ := hparse openLines (by simp)
  obtain ⟨ns, hns⟩ := hparse nextLine (by simp)
  refine ⟨hlines, ms, ns, hms, hns, ?_⟩
  rw [((render_wholeLines_append hlines nextLine).2 ms ns hms hns _ _).2]
  decide +kernel

end Template

end Explainer
