import Explainer.Text.Alphanumeric
import Mathlib.Data.List.TakeWhile

/-!
# Texts without white space

Trimming and the cut into words only ever drop white space. So a text
without any at its ends is its own trimmed form, and words that are written
with a blank behind each of them come back as they were. Which characters can
stand in a word is a question about two tables of code points, and the tables
are small enough to compare entry by entry: nothing alphanumeric is white
space.
-/

namespace Explainer

/-! ## Tables of code points -/

/-- A character cannot be in two tables whose ranges do not meet. -/
theorem inRanges_disjoint {rs qs : List (Nat × Nat)}
    (h : (rs.all fun r => qs.all fun q => r.2 < q.1 || q.2 < r.1) = true) {c : Char}
    (hr : inRanges rs c = true) : inRanges qs c = false := by
  simp only [List.all_eq_true, Bool.or_eq_true, decide_eq_true_eq] at h
  rw [inRanges, List.any_eq_true] at hr
  obtain ⟨r, hmem, hin⟩ := hr
  rw [inRanges, List.any_eq_false]
  intro q hq hin'
  simp only [Bool.and_eq_true, decide_eq_true_eq] at hin hin'
  have := h r hmem q hq
  omega

theorem inRanges_of_isAlphanum {c : Char} (h : c.isAlphanum = true) :
    inRanges [(0x30, 0x39), (0x41, 0x5a), (0x61, 0x7a)] c = true := by
  change ((decide (65 ≤ c.val ∧ c.val ≤ 90) ||
    (decide (97 ≤ c.val) && decide (c.val ≤ 122))) ||
    (decide (48 ≤ c.val) && decide (c.val ≤ 57))) = true at h
  simp only [Bool.or_eq_true, Bool.and_eq_true, decide_eq_true_eq,
    UInt32.le_iff_toNat_le] at h
  change ((65 ≤ c.toNat ∧ c.toNat ≤ 90) ∨ (97 ≤ c.toNat ∧ c.toNat ≤ 122)) ∨
    (48 ≤ c.toNat ∧ c.toNat ≤ 57) at h
  simp only [inRanges, List.any_cons, List.any_nil, Bool.or_eq_true, Bool.and_eq_true,
    decide_eq_true_eq]
  omega

theorem isBlank_of_isAlphanumeric {c : Char} (h : isAlphanumeric c = true) :
    isBlank c = false := by
  rw [isAlphanumeric] at h
  split at h
  · exact inRanges_disjoint (by decide) (inRanges_of_isAlphanum h)
  · exact inRanges_disjoint (by decide +kernel) h

namespace Text

/-! ## Trimming -/

/-- A text with something in it, and no white space at either end. -/
structure IsTrimmed (s : Text) : Prop where
  ne_nil : s ≠ []
  head_not_blank : ∀ c ∈ s.head?, isBlank c = false
  last_not_blank : ∀ c ∈ s.getLast?, isBlank c = false

theorem dropWhile_isBlank_of_head {s : Text} (h : ∀ c ∈ s.head?, isBlank c = false) :
    s.dropWhile isBlank = s := by
  cases s with
  | nil => rfl
  | cons c cs => rw [List.dropWhile_cons_of_neg (by simp [h c rfl])]

/-- Whatever stands between trimmed texts, the whole is trimmed. -/
theorem IsTrimmed.append {s t : Text} (hs : s.IsTrimmed) (ht : t.IsTrimmed)
    (between : Text) : IsTrimmed (s ++ between ++ t) := by
  have hhead : (s ++ between ++ t).head? = s.head? := by
    rw [List.append_assoc, List.head?_append,
      Option.or_of_isSome (List.isSome_head?.mpr hs.ne_nil)]
  have hlast : (s ++ between ++ t).getLast? = t.getLast? := by
    rw [List.getLast?_append, Option.or_of_isSome (List.getLast?_isSome.mpr ht.ne_nil)]
  exact ⟨List.append_ne_nil_of_right_ne_nil _ ht.ne_nil, hhead ▸ hs.head_not_blank,
    hlast ▸ ht.last_not_blank⟩

/-- The text `t` is `s` without the white space at its ends. -/
structure Trims (s t : Text) : Prop where
  exists_ends : ∃ before after, s = before ++ t ++ after ∧
    (∀ c ∈ before, isBlank c = true) ∧ ∀ c ∈ after, isBlank c = true
  head_not_blank : ∀ c ∈ t.head?, isBlank c = false
  last_not_blank : ∀ c ∈ t.getLast?, isBlank c = false

theorem IsTrimmed.trims {s : Text} (h : s.IsTrimmed) : Trims s s where
  exists_ends := ⟨[], [], by simp⟩
  head_not_blank := h.head_not_blank
  last_not_blank := h.last_not_blank

theorem Trims.sublist {s t : Text} (h : Trims s t) : t.Sublist s := by
  obtain ⟨before, after, rfl, -, -⟩ := h.exists_ends
  exact (List.infix_append before t after).sublist

theorem head_dropWhile_not_blank (s : Text) :
    ∀ c ∈ (s.dropWhile isBlank).head?, isBlank c = false := by
  intro c hc
  have h := List.head?_dropWhile_not isBlank s
  rwa [Option.mem_def.mp hc] at h

theorem trims_trim (s : Text) : Trims s (trim s) := by
  have hsplit : trimStart s = trim s ++ ((trimStart s).reverse.takeWhile isBlank).reverse := by
    rw [trim, trimEnd, ← List.reverse_append, List.takeWhile_append_dropWhile,
      List.reverse_reverse]
  refine ⟨⟨s.takeWhile isBlank, ((trimStart s).reverse.takeWhile isBlank).reverse, ?_, ?_, ?_⟩,
    ?_, ?_⟩
  · rw [List.append_assoc, ← hsplit, trimStart, List.takeWhile_append_dropWhile]
  · exact fun c hc => List.mem_takeWhile_imp hc
  · exact fun c hc => List.mem_takeWhile_imp (List.mem_reverse.mp hc)
  · intro c hc
    refine head_dropWhile_not_blank s c ?_
    rw [← trimStart, hsplit, List.head?_append, Option.mem_def.mp hc]
    rfl
  · intro c hc
    rw [trim, trimEnd, List.getLast?_reverse] at hc
    exact head_dropWhile_not_blank _ c hc

theorem Trims.trim_eq {s t : Text} (h : Trims s t) : trim s = t := by
  obtain ⟨before, after, rfl, hbefore, hafter⟩ := h.exists_ends
  by_cases hne : t = []
  · subst hne
    have hall : ∀ c ∈ before ++ [] ++ after, isBlank c = true := by
      intro c hc
      rw [List.append_nil, List.mem_append] at hc
      exact hc.elim (hbefore c) (hafter c)
    rw [trim, trimStart, List.dropWhile_eq_nil_iff.mpr hall]
    rfl
  · have hhead : ∀ c ∈ (t ++ after).head?, isBlank c = false := by
      rw [List.head?_append, Option.or_of_isSome (List.isSome_head?.mpr hne)]
      exact h.head_not_blank
    have hlast : ∀ c ∈ t.reverse.head?, isBlank c = false := by
      rw [List.head?_reverse]
      exact h.last_not_blank
    have hrev : ∀ c ∈ after.reverse, isBlank c = true :=
      fun c hc => hafter c (List.mem_reverse.mp hc)
    rw [trim, trimStart, List.append_assoc, List.dropWhile_append_of_pos hbefore,
      dropWhile_isBlank_of_head hhead, trimEnd, List.reverse_append,
      List.dropWhile_append_of_pos hrev, dropWhile_isBlank_of_head hlast, List.reverse_reverse]

theorem IsTrimmed.trim_eq {s : Text} (h : s.IsTrimmed) : trim s = s := h.trims.trim_eq

/-! ## Words -/

/-- A word is not empty and has no white space in it. -/
structure IsWord (w : Text) : Prop where
  ne_nil : w ≠ []
  no_blank : ∀ c ∈ w, isBlank c = false

theorem IsWord.isTrimmed {w : Text} (h : IsWord w) : w.IsTrimmed :=
  ⟨h.ne_nil, fun c hc => h.no_blank c (List.mem_of_head? hc),
    fun c hc => h.no_blank c (List.mem_of_getLast? hc)⟩

@[simp] theorem words_nil : words [] = [] := rfl

/-- White space ends whatever word stands before it. -/
theorem words_append_cons {c : Char} (hc : isBlank c = true) (s t : Text) :
    words (s ++ c :: t) = words s ++ words t := by
  rw [words, List.splitOnP_append_cons s t hc, List.filter_append, words, words]

theorem IsWord.words_eq {w : Text} (h : IsWord w) : words w = [w] := by
  rw [words, List.splitOnP_eq_singleton h.no_blank, List.filter_cons_of_pos (by simp [h.ne_nil]),
    List.filter_nil]

theorem words_append_blank {w : Text} (hw : IsWord w) (s : Text) :
    words (w ++ ' ' :: s) = w :: words s := by
  rw [words_append_cons (by decide), hw.words_eq, List.singleton_append]

/-- Words with a blank behind each are read back. -/
theorem words_flatMap {ws : List Text} (h : ∀ w ∈ ws, IsWord w) :
    words (ws.flatMap fun w => w ++ [' ']) = ws := by
  induction ws with
  | nil => rfl
  | cons w ws ih =>
      rw [List.flatMap_cons, List.append_assoc, List.singleton_append,
        words_append_blank (h w List.mem_cons_self),
        ih fun v hv => h v (List.mem_cons_of_mem w hv)]

theorem words_cons_blank (s : Text) : words (' ' :: s) = words s :=
  words_append_cons (by decide) [] s

/-- The white space around and between words may be any, as long as there is some between two. -/
inductive LaidOut : Text → List Text → Prop
  | blank {s : Text} (h : ∀ c ∈ s, isBlank c = true) : LaidOut s []
  | word {gap w rest : Text} {ws : List Text} (hgap : ∀ c ∈ gap, isBlank c = true)
      (hw : IsWord w) (hrest : ∀ c ∈ rest.head?, isBlank c = true) (h : LaidOut rest ws) :
      LaidOut (gap ++ w ++ rest) (w :: ws)

theorem words_blank_append {gap : Text} (h : ∀ c ∈ gap, isBlank c = true) (s : Text) :
    words (gap ++ s) = words s := by
  induction gap with
  | nil => rfl
  | cons c gap ih =>
      rw [List.cons_append]
      exact (words_append_cons (h c List.mem_cons_self) [] _).trans
        (ih fun d hd => h d (List.mem_cons_of_mem c hd))

theorem words_word_append {w rest : Text} (hw : IsWord w)
    (hrest : ∀ c ∈ rest.head?, isBlank c = true) : words (w ++ rest) = w :: words rest := by
  cases rest with
  | nil => rw [List.append_nil, hw.words_eq, words_nil]
  | cons c rest =>
      have hc : isBlank c = true := hrest c rfl
      have hrest' : words (c :: rest) = words rest := words_append_cons hc [] rest
      rw [words_append_cons hc, hw.words_eq, hrest', List.singleton_append]

theorem LaidOut.words_eq {s : Text} {ws : List Text} (h : LaidOut s ws) : words s = ws := by
  induction h with
  | @blank s h =>
      rw [← List.append_nil s, words_blank_append h, words_nil]
  | word hgap hw hrest _ ih =>
      rw [List.append_assoc, words_blank_append hgap, words_word_append hw hrest, ih]

/-- Every text is its words with white space around them. -/
theorem exists_laidOut (s : Text) : ∃ ws, LaidOut s ws := by
  have hgap : ∀ c ∈ s.takeWhile isBlank, isBlank c = true := fun c hc => List.mem_takeWhile_imp hc
  have hs : s.takeWhile isBlank ++ s.dropWhile isBlank = s := List.takeWhile_append_dropWhile
  cases hr : s.dropWhile isBlank with
  | nil =>
      rw [hr, List.append_nil] at hs
      exact ⟨[], .blank (hs ▸ hgap)⟩
  | cons c r =>
      have hc : isBlank c = false := head_dropWhile_not_blank s c (by rw [hr]; rfl)
      -- The first word goes on up to the next white space.
      let notBlank (d : Char) : Bool := !isBlank d
      have hword : IsWord ((c :: r).takeWhile notBlank) := by
        refine ⟨?_, fun d hd => by simpa [notBlank] using List.mem_takeWhile_imp hd⟩
        rw [List.takeWhile_cons_of_pos (by simp [notBlank, hc])]
        exact List.cons_ne_nil _ _
      have hlt : ((c :: r).dropWhile notBlank).length < s.length := by
        rw [← hs, hr, List.dropWhile_cons_of_pos (by simp [notBlank, hc]), List.length_append,
          List.length_cons]
        have := (List.dropWhile_sublist notBlank (l := r)).length_le
        omega
      obtain ⟨ws, h⟩ := exists_laidOut ((c :: r).dropWhile notBlank)
      have hstop : ∀ d ∈ ((c :: r).dropWhile notBlank).head?, isBlank d = true := by
        intro d hd
        have hnot := List.head?_dropWhile_not notBlank (c :: r)
        rw [Option.mem_def.mp hd] at hnot
        simpa [notBlank] using hnot
      have hlaid := LaidOut.word hgap hword hstop h
      rw [List.append_assoc, List.takeWhile_append_dropWhile, ← hr, hs] at hlaid
      exact ⟨_, hlaid⟩
termination_by s.length

theorem words_eq_iff {s : Text} {ws : List Text} : words s = ws ↔ LaidOut s ws := by
  refine ⟨?_, LaidOut.words_eq⟩
  rintro rfl
  obtain ⟨ws, h⟩ := exists_laidOut s
  rwa [h.words_eq]

theorem LaidOut.isWord_of_mem {s : Text} {ws : List Text} (h : LaidOut s ws) :
    ∀ w ∈ ws, IsWord w := by
  induction h with
  | blank _ => exact fun w hw => nomatch hw
  | word _ hw _ _ ih => exact List.forall_mem_cons.mpr ⟨hw, ih⟩

end Text

end Explainer
