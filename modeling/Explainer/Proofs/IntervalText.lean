import Explainer.Proofs.IntervalGrammar

/-!
# The canonical descriptor of an interval

An interval can be written in many ways: with blanks around its numbers, with
zeros in front of them, with a comma behind a point. Its text has none of
these, and every other descriptor of the interval contains it, character by
character and in order (`text_sublist_of_parse`). That makes the text the
shortest descriptor that says what it says, and the only one of its length.

The text is read back as the interval that it was made of, whenever the
offsets fit a word, in order or not. A point and a span that ends where it
starts are different intervals, and they have different texts.
-/

namespace Explainer

/-! ## Texts within texts -/

namespace Text

variable {s t : Text}

theorem utf8Length_le_of_sublist (h : s.Sublist t) : utf8Length s ≤ utf8Length t := by
  induction h with
  | slnil => exact Nat.le_refl 0
  | cons c _ ih =>
      rw [utf8Length_cons]
      omega
  | cons_cons c _ ih =>
      rw [utf8Length_cons, utf8Length_cons]
      omega

theorem utf8Length_lt_of_sublist (h : s.Sublist t) (hne : s ≠ t) :
    utf8Length s < utf8Length t := by
  induction h with
  | slnil => exact absurd rfl hne
  | cons c h _ =>
      have hle := utf8Length_le_of_sublist h
      have hpos := c.utf8Size_pos
      rw [utf8Length_cons]
      omega
  | cons_cons c _ ih =>
      have hlt := ih fun heq => hne (congrArg (c :: ·) heq)
      rw [utf8Length_cons, utf8Length_cons]
      omega

theorem length_lt_of_sublist (h : s.Sublist t) (hne : s ≠ t) : s.length < t.length :=
  Nat.lt_of_le_of_ne h.length_le fun heq => hne (h.eq_of_length heq)

/-- Joining shorter parts leaves characters out, and moves none. -/
theorem intercalate_sublist {sep : Text} {parts segs : List Text}
    (h : List.Forall₂ (fun part segment => List.Sublist segment part) parts segs) :
    (sep.intercalate segs).Sublist (sep.intercalate parts) := by
  induction h with
  | nil => exact .slnil
  | cons hpart hrest ih =>
      cases hrest with
      | nil => rwa [List.intercalate_singleton, List.intercalate_singleton]
      | cons hnext hrest =>
          rw [List.intercalate_cons_cons, List.intercalate_cons_cons]
          exact (hpart.append (List.Sublist.refl sep)).append ih

end Text

namespace Interval

/-- The offsets of the interval fit a word. -/
structure Fits (i : Interval) : Prop where
  start_le : i.start ≤ maxWord
  stop_le : ∀ stop ∈ i.stop, stop ≤ maxWord

/-- A descriptor of an interval, shorter than every other one, with no blanks
in it and no zeros in front of a number. -/
structure Canonical (d : Text) (i : Interval) : Prop where
  parse_eq : parse d = .ok i
  shortest : ∀ t, parse t = .ok i → t ≠ d →
    d.length < t.length ∧ d.utf8Length < t.utf8Length
  no_blank : ∀ c ∈ d, isBlank c = false
  no_zero : ∀ segment ∈ segments d, ∀ rest, segment = '0' :: rest → rest = []

section

variable {d : Text} {i : Interval}

/-! ## The text of an interval -/

/-- The numbers of an interval, as they are written. -/
def numerals (i : Interval) : List Text := natText i.start :: i.stop.toList.map natText

theorem text_eq_intercalate (i : Interval) : i.text = [','].intercalate i.numerals := by
  obtain ⟨start, stop⟩ := i
  cases stop with
  | none => exact List.intercalate_singleton.symm
  | some stop =>
      show _ = [','].intercalate [natText start, natText stop]
      rw [List.intercalate_cons_cons, List.intercalate_singleton, List.append_assoc]
      rfl

theorem exists_natText_of_mem_numerals {numeral : Text} (h : numeral ∈ i.numerals) :
    ∃ n, numeral = natText n := by
  rcases List.mem_cons.mp h with rfl | hstop
  · exact ⟨i.start, rfl⟩
  · obtain ⟨n, -, rfl⟩ := List.mem_map.mp hstop
    exact ⟨n, rfl⟩

theorem segments_text (i : Interval) : segments i.text = i.numerals := by
  rw [text_eq_intercalate]
  refine segments_intercalate (List.cons_ne_nil _ _) ?_ ?_
  · intro numeral h
    obtain ⟨n, rfl⟩ := exists_natText_of_mem_numerals h
    exact (spells_natText n).notMem (by decide)
  · intro numeral h
    obtain ⟨n, rfl⟩ := exists_natText_of_mem_numerals h
    exact (spells_natText n).isWord.isTrimmed.trims

theorem parse_text (h : i.Fits) : parse i.text = .ok i := by
  refine Says.parse_eq (segments_text i) ?_
  have hstart := spellsWord_natText h.start_le
  obtain ⟨start, stop⟩ := i
  cases stop with
  | none => exact .point hstart (.inl rfl)
  | some stop => exact .span hstart (spellsWord_natText (h.stop_le stop rfl))

theorem text_point_ne_span (start : Nat) : (point start).text ≠ (span start start).text := by
  intro h
  have hlength := congrArg List.length h
  simp only [point, span, text, List.length_append, List.length_cons] at hlength
  omega

/-! ## What a descriptor of an interval contains -/

theorem exists_says_of_parse (h : parse d = .ok i) :
    ∃ segs, segments d = segs ∧ Says d segs (.ok i) :=
  ⟨segments d, rfl, h ▸ says_parse d⟩

theorem fits_of_parse (h : parse d = .ok i) : i.Fits := by
  obtain ⟨segs, -, hsays⟩ := exists_says_of_parse h
  cases hsays with
  | point hfirst _ => exact ⟨hfirst.le_maxWord, by simp [point]⟩
  | span hfirst hsecond =>
      refine ⟨hfirst.le_maxWord, ?_⟩
      intro stop hstop
      cases hstop
      exact hsecond.le_maxWord

theorem intercalate_segments_sublist (d : Text) : ([','].intercalate (segments d)).Sublist d := by
  obtain ⟨parts, -, -, hd, htrims⟩ := segmented_segments d
  have h : ([','].intercalate (segments d)).Sublist ([','].intercalate parts) :=
    Text.intercalate_sublist (htrims.imp fun _ _ h => h.sublist)
  rwa [← hd] at h

/-- A descriptor of an interval contains the text of the interval. -/
theorem text_sublist_of_parse (h : parse d = .ok i) : i.text.Sublist d := by
  refine List.Sublist.trans ?_ (intercalate_segments_sublist d)
  obtain ⟨segs, hsegs, hsays⟩ := exists_says_of_parse h
  rw [hsegs]
  cases hsays with
  | @point first rest start hfirst hrest =>
      have hsub : (point start).text.Sublist first := hfirst.natText_sublist
      rcases hrest with rfl | rfl
      · rwa [List.intercalate_singleton]
      · rw [List.intercalate_cons_cons, List.append_assoc]
        exact hsub.trans (List.sublist_append_left _ _)
  | span hfirst hsecond =>
      rw [text_eq_intercalate]
      refine Text.intercalate_sublist ?_
      exact .cons hfirst.natText_sublist (.cons hsecond.natText_sublist .nil)

theorem canonical_text (h : i.Fits) : Canonical i.text i where
  parse_eq := parse_text h
  shortest := by
    intro t ht hne
    have hsub := text_sublist_of_parse ht
    exact ⟨Text.length_lt_of_sublist hsub hne.symm, Text.utf8Length_lt_of_sublist hsub hne.symm⟩
  no_blank := by
    intro c hc
    rw [text_eq_intercalate] at hc
    rcases Template.mem_intercalate hc with hcomma | ⟨numeral, hnumeral, hmem⟩
    · rw [List.mem_singleton.mp hcomma]
      decide
    · obtain ⟨n, rfl⟩ := exists_natText_of_mem_numerals hnumeral
      exact (spells_natText n).isWord.no_blank c hmem
  no_zero := by
    intro segment hsegment rest heq
    rw [segments_text] at hsegment
    obtain ⟨n, rfl⟩ := exists_natText_of_mem_numerals hsegment
    exact eq_nil_of_natText_eq_cons heq

end

/-- The text of an interval is read back as that interval, and it is the
canonical one among all descriptors that are read as the interval. -/
theorem parse_text_canonical :
    (∀ i : Interval, i.Fits → parse i.text = .ok i) ∧
    (∀ start : Nat, (point start).text ≠ (span start start).text) ∧
    ∀ (d : Text) (i : Interval), parse d = .ok i → Canonical i.text i :=
  ⟨fun _ h => parse_text h, text_point_ne_span, fun _ _ h => canonical_text (fits_of_parse h)⟩

theorem parse_text_canonical_padded :
    (span 8 2).Fits ∧ parse (span 8 2).text = .ok (span 8 2) ∧
      parse "\u2003008 , 2".toList = .ok (span 8 2) ∧ Canonical "8,2".toList (span 8 2) := by
  have hfits : (span 8 2).Fits := by
    refine ⟨by decide, ?_⟩
    intro stop hstop
    cases hstop
    decide
  have hpadded : parse "\u2003008 , 2".toList = .ok (span 8 2) := rfl
  obtain ⟨hread, -, hcanonical⟩ := parse_text_canonical
  exact ⟨hfits, hread _ hfits, hpadded, hcanonical _ _ hpadded⟩

end Interval

end Explainer
