import Explainer.Proofs.ByteSlices
import Explainer.Proofs.TreePrefix
import Explainer.Template.Render
import Mathlib.Tactic.IntervalCases

/-!
# The loop that cuts a template

Tags may be given by any two searches, and all that is known of a search is
that what it reports is a place in the template, not before the position asked
for (`ByteSearch.Sound`). It may report empty occurrences, at the position or
behind it, again and again, or an occurrence without an expression.

`Loop` is the cut as a loop over bytes, rule by rule. Bytes matter here: a
position that is moved by one would be inside a character after an empty tag
before `é`. The invariant is that the position is a boundary, and each round
moves it to a later one (`Turn.moves`), so the loop comes to an end, with the
tokens of the cut (`Loop.exists_tokensFrom`), and to no other (`Loop.unique`).
That the tokens tile the template, and which occurrences are taken, is then
read off the rounds.

The cut itself counts characters. `Delimiter.Finds` is the step from one to the
other, and each search in bytes has a delimiter that takes it
(`Delimiter.ofBytes`).
-/

namespace Explainer.Template

open Text

/-! ## Searches in bytes -/

/-- What a search reports for a position in one template; all places count bytes. -/
abbrev ByteSearch := Nat → Option Occurrence

namespace Occurrence

/-- The least that an occurrence has to be, when it is reported for a position. -/
structure Within (s : Text) (position : Nat) (m : Occurrence) : Prop where
  le_start : position ≤ m.start
  start_le : m.start ≤ m.stop
  start : s.IsBoundary m.start
  stop : s.IsBoundary m.stop
  group : ∀ g ∈ m.expression, m.start ≤ g.1 ∧ g.1 ≤ g.2 ∧ g.2 ≤ m.stop ∧
    s.IsBoundary g.1 ∧ s.IsBoundary g.2

/-- The same occurrence, in characters. -/
def inChars (s : Text) (m : Occurrence) : Occurrence :=
  ⟨s.charAt m.start, s.charAt m.stop, m.expression.map fun g => (s.charAt g.1, s.charAt g.2)⟩

/-- The expression of an occurrence, which is empty if there is none. -/
inductive Holds (s : Text) (m : Occurrence) : Text → Prop where
  | unset (h : m.expression = none) : Holds s m []
  | group {g : Nat × Nat} {e : Text} (h : m.expression = some g)
      (he : s.slice? g.1 g.2 = some e) : Holds s m e

end Occurrence

def ByteSearch.Sound (s : Text) (search : ByteSearch) : Prop :=
  ∀ k m, s.IsBoundary k → search k = some m → m.Within s k

namespace Delimiter

/-- The delimiter finds in the template what the search reports. -/
def Finds (d : Delimiter) (s : Text) (search : ByteSearch) : Prop :=
  ∀ k, s.IsBoundary k → d.search s (s.charAt k) = (search k).map (Occurrence.inChars s)

def ofBytes (pattern : Text) (search : Text → ByteSearch) : Delimiter where
  pattern := pattern
  search s i := (search s (s.byteAt i)).map (Occurrence.inChars s)

theorem finds_ofBytes (pattern : Text) (search : Text → ByteSearch) (s : Text) :
    (ofBytes pattern search).Finds s (search s) := by
  intro k hk
  show (search s (s.byteAt (s.charAt k))).map _ = _
  rw [hk.byteAt_charAt]

end Delimiter

/-! ## The loop -/

/-- What a round of the loop takes, and the position at which it searches for it. -/
structure Taken where
  position : Nat
  isEscape : Bool
  found : Occurrence
  expression : Text

def Taken.token (r : Taken) : Token :=
  if r.isEscape then .escape r.expression else .evaluate r.expression

/-- Of what the two searches report, the one that starts first is taken. -/
inductive Chosen (s : Text) (escape evaluate : ByteSearch) (r : Taken) : Prop where
  | escape (hkind : r.isEscape = true) (hfound : escape r.position = some r.found)
      (hfirst : ∀ m, evaluate r.position = some m → r.found.start ≤ m.start)
      (he : r.found.Holds s r.expression)
  | evaluate (hkind : r.isEscape = false) (hfound : evaluate r.position = some r.found)
      (hfirst : ∀ m, escape r.position = some m → r.found.start < m.start)
      (he : r.found.Holds s r.expression)

/-- The text before an occurrence. -/
inductive Gap (s : Text) (lo hi : Nat) : List Token → Prop where
  | some {t : Text} (h : lo < hi) (ht : s.slice? lo hi = some t) : Gap s lo hi [.text t]
  | none (h : hi ≤ lo) : Gap s lo hi []

/-- What a round leaves: its tokens, and the next position. -/
inductive Turn (s : Text) (r : Taken) : List Token → Nat → Prop where
  | tag {gap : List Token} (hgap : Gap s r.position r.found.start gap)
      (hstop : r.position < r.found.stop) : Turn s r (gap ++ [r.token]) r.found.stop
  /-- The tag has not moved the loop, so a character does. -/
  | emptyTag {gap : List Token} {c : Char} (hgap : Gap s r.position r.found.start gap)
      (hstop : r.found.stop ≤ r.position)
      (hc : s.slice? r.position (r.position + c.utf8Size) = some [c]) :
      Turn s r (gap ++ [r.token, .text [c]]) (r.position + c.utf8Size)

/-- The loop from a position on: its rounds, the position at which it ends, and its tokens. -/
inductive Loop (s : Text) (escape evaluate : ByteSearch) :
    Nat → List Taken → Nat → List Token → Prop where
  | ended {k : Nat} (hk : s.utf8Length ≤ k) : Loop s escape evaluate k [] k []
  | rest {k : Nat} {t : Text} (hk : k < s.utf8Length) (hescape : escape k = none)
      (hevaluate : evaluate k = none) (ht : s.slice? k s.utf8Length = some t) :
      Loop s escape evaluate k [] k [.text t]
  | turn {k next last : Nat} {r : Taken} {rs : List Taken} {us ts : List Token}
      (hk : k < s.utf8Length) (hposition : r.position = k) (hr : Chosen s escape evaluate r)
      (hturn : Turn s r us next) (hrest : Loop s escape evaluate next rs last ts) :
      Loop s escape evaluate k (r :: rs) last (us ++ ts)

variable {s : Text} {escape evaluate : ByteSearch} {d : Delimiters}
  {k lo hi next next' last last' : Nat} {m : Occurrence} {r r' : Taken} {rs rs' : List Taken}
  {ts ts' us us' : List Token} {e e' : Text}

/-! ### It has one result -/

theorem Occurrence.Holds.unique (h : m.Holds s e) (h' : m.Holds s e') : e = e' := by
  cases h with
  | unset hnone =>
      cases h' with
      | unset => rfl
      | group hsome => cases hnone.symm.trans hsome
  | group hsome he =>
      cases h' with
      | unset hnone => cases hnone.symm.trans hsome
      | group hsome' he' =>
          obtain rfl := Option.some.inj (hsome.symm.trans hsome')
          exact Option.some.inj (he.symm.trans he')

theorem Chosen.holds (h : Chosen s escape evaluate r) : r.found.Holds s r.expression := by
  cases h with
  | escape _ _ _ he | evaluate _ _ _ he => exact he

/-- What is taken is what the search of its family reports. -/
theorem Chosen.found_eq (h : Chosen s escape evaluate r) :
    (if r.isEscape then escape else evaluate) r.position = some r.found := by
  cases h with
  | escape hkind hfound => rwa [hkind, if_pos rfl]
  | evaluate hkind hfound => rwa [hkind, if_neg Bool.false_ne_true]

theorem Chosen.earliest (h : Chosen s escape evaluate r)
    (hm : escape r.position = some m ∨ evaluate r.position = some m) :
    r.found.start ≤ m.start := by
  cases h with
  | escape _ hfound hfirst =>
      rcases hm with hm | hm
      · obtain rfl := Option.some.inj (hfound.symm.trans hm)
        exact Nat.le_refl _
      · exact hfirst m hm
  | evaluate _ hfound hfirst =>
      rcases hm with hm | hm
      · exact Nat.le_of_lt (hfirst m hm)
      · obtain rfl := Option.some.inj (hfound.symm.trans hm)
        exact Nat.le_refl _

theorem Chosen.tie (h : Chosen s escape evaluate r) (hm : escape r.position = some m)
    (hstart : m.start = r.found.start) : r.isEscape = true := by
  cases h with
  | escape hkind => exact hkind
  | evaluate _ _ hfirst => exact absurd hstart (Nat.ne_of_gt (hfirst m hm))

theorem Chosen.unique (h : Chosen s escape evaluate r) (h' : Chosen s escape evaluate r')
    (hposition : r.position = r'.position) : r = r' := by
  have hsame : r.isEscape = r'.isEscape ∧ r.found = r'.found := by
    cases h with
    | escape hkind hfound hfirst =>
        rw [hposition] at hfound hfirst
        cases h' with
        | escape hkind' hfound' =>
            exact ⟨hkind.trans hkind'.symm, Option.some.inj (hfound.symm.trans hfound')⟩
        | evaluate _ hfound' hfirst' =>
            exact absurd (hfirst _ hfound') (Nat.not_le.mpr (hfirst' _ hfound))
    | evaluate hkind hfound hfirst =>
        rw [hposition] at hfound hfirst
        cases h' with
        | escape _ hfound' hfirst' =>
            exact absurd (hfirst' _ hfound) (Nat.not_le.mpr (hfirst _ hfound'))
        | evaluate hkind' hfound' =>
            exact ⟨hkind.trans hkind'.symm, Option.some.inj (hfound.symm.trans hfound')⟩
  obtain ⟨k, isEscape, m, e⟩ := r
  obtain ⟨k', isEscape', m', e'⟩ := r'
  obtain ⟨rfl, rfl⟩ : isEscape = isEscape' ∧ m = m' := hsame
  obtain rfl : k = k' := hposition
  obtain rfl : e = e' := h.holds.unique h'.holds
  rfl

theorem Gap.unique (h : Gap s lo hi ts) (h' : Gap s lo hi ts') : ts = ts' := by
  cases h with
  | some hlt ht =>
      cases h' with
      | some hlt' ht' => rw [Option.some.inj (ht.symm.trans ht')]
      | none hle => exact absurd hlt (Nat.not_lt.mpr hle)
  | none hle =>
      cases h' with
      | some hlt => exact absurd hlt (Nat.not_lt.mpr hle)
      | none => rfl

theorem Turn.unique (h : Turn s r us next) (h' : Turn s r us' next') :
    us = us' ∧ next = next' := by
  cases h with
  | tag hgap hstop =>
      cases h' with
      | tag hgap' => rw [hgap.unique hgap']; exact ⟨rfl, rfl⟩
      | emptyTag _ hstop' => exact absurd hstop (Nat.not_lt.mpr hstop')
  | emptyTag hgap hstop hc =>
      cases h' with
      | tag _ hstop' => exact absurd hstop' (Nat.not_lt.mpr hstop)
      | emptyTag hgap' _ hc' =>
          rw [hgap.unique hgap', head_eq_of_slice? hc hc']
          exact ⟨rfl, rfl⟩

theorem Loop.unique (h : Loop s escape evaluate k rs last ts)
    (h' : Loop s escape evaluate k rs' last' ts') : rs = rs' ∧ last = last' ∧ ts = ts' := by
  have hnone {k : Nat} {r : Taken} (hposition : r.position = k) (hr : Chosen s escape evaluate r)
      (hescape : escape k = none) (hevaluate : evaluate k = none) : False := by
    have hfound := hr.found_eq
    rw [hposition] at hfound
    split at hfound
    · cases hescape.symm.trans hfound
    · cases hevaluate.symm.trans hfound
  induction h generalizing rs' ts' with
  | ended hk =>
      cases h' with
      | ended => exact ⟨rfl, rfl, rfl⟩
      | rest hk' | turn hk' => exact absurd hk' (Nat.not_lt.mpr hk)
  | rest hk hescape hevaluate ht =>
      cases h' with
      | ended hk' => exact absurd hk (Nat.not_lt.mpr hk')
      | rest _ _ _ ht' =>
          rw [Option.some.inj (ht.symm.trans ht')]
          exact ⟨rfl, rfl, rfl⟩
      | turn _ hposition hr => exact (hnone hposition hr hescape hevaluate).elim
  | turn hk hposition hr hturn _ ih =>
      cases h' with
      | ended hk' => exact absurd hk (Nat.not_lt.mpr hk')
      | rest _ hescape hevaluate => exact (hnone hposition hr hescape hevaluate).elim
      | turn _ hposition' hr' hturn' hrest' =>
          obtain rfl := hr.unique hr' (hposition.trans hposition'.symm)
          obtain ⟨rfl, rfl⟩ := hturn.unique hturn'
          obtain ⟨rfl, rfl, rfl⟩ := ih hrest'
          exact ⟨rfl, rfl, rfl⟩

/-! ### A round moves the position -/

theorem Chosen.within (h : Chosen s escape evaluate r) (hescape : escape.Sound s)
    (hevaluate : evaluate.Sound s) (hk : s.IsBoundary r.position) :
    r.found.Within s r.position := by
  have hfound := h.found_eq
  split at hfound
  · exact hescape _ _ hk hfound
  · exact hevaluate _ _ hk hfound

theorem Turn.moves (h : Turn s r us next) (hr : r.found.Within s r.position) :
    r.position < next ∧ s.IsBoundary next := by
  cases h with
  | tag _ hstop => exact ⟨hstop, hr.stop⟩
  | @emptyTag gap c _ _ hc =>
      exact ⟨Nat.lt_add_of_pos_right c.utf8Size_pos, (isBoundary_of_slice? hc).2.1⟩

/-- An occurrence without extent has nothing in it. -/
theorem Occurrence.Within.eq_nil (h : m.Within s k) (he : m.Holds s e) (hempty : m.start = m.stop) :
    e = [] := by
  cases he with
  | unset => rfl
  | group hsome he =>
      obtain ⟨hfirst, hle, hlast, -⟩ := h.group _ hsome
      have hlength := (isBoundary_of_slice? he).2.2
      exact utf8Length_eq_zero.mp (by omega)

/-! ### It takes the steps of the cut -/

theorem gap_charAt (hlo : s.IsBoundary lo) (hhi : s.IsBoundary hi) :
    Gap s lo hi (Delimiters.gap s (s.charAt lo) (s.charAt hi)) := by
  rw [Delimiters.gap]
  by_cases h : lo < hi
  · rw [if_pos ((hlo.charAt_lt_iff hhi).mpr h)]
    exact .some h (hlo.slice?_eq hhi (Nat.le_of_lt h))
  · rw [if_neg fun hlt => h ((hlo.charAt_lt_iff hhi).mp hlt)]
    exact .none (Nat.le_of_not_lt h)

theorem Occurrence.Within.holds (h : m.Within s k) :
    m.Holds s ((m.inChars s).expressionText s) := by
  cases hm : m.expression with
  | none =>
      have hnil : (m.inChars s).expressionText s = [] := by
        rw [expressionText, inChars, hm]
        rfl
      exact hnil ▸ .unset hm
  | some g =>
      obtain ⟨-, hle, -, hstart, hstop⟩ := h.group g hm
      have hcut : (m.inChars s).expressionText s = cut s (s.charAt g.1) (s.charAt g.2) := by
        rw [expressionText, inChars, hm]
        rfl
      exact hcut ▸ .group hm (hstart.slice?_eq hstop hle)

theorem next?_eq_none (hescape : d.escape.Finds s escape) (hevaluate : d.evaluate.Finds s evaluate)
    (hk : s.IsBoundary k) (h : d.next? s (s.charAt k) = none) :
    escape k = none ∧ evaluate k = none := by
  rw [Delimiters.next?, hescape k hk, hevaluate k hk] at h
  cases he : escape k <;> cases hv : evaluate k <;> rw [he, hv] at h
  · exact ⟨rfl, rfl⟩
  · cases h
  · cases h
  · simp only [Option.map_some] at h
    split at h <;> cases h

/-- The cut takes the occurrence that the loop takes. -/
theorem next?_eq_some (hescape : d.escape.Finds s escape) (hevaluate : d.evaluate.Finds s evaluate)
    (hescape' : escape.Sound s) (hevaluate' : evaluate.Sound s) (hk : s.IsBoundary k)
    {found : Occurrence} {isEscape : Bool} (h : d.next? s (s.charAt k) = some (found, isEscape)) :
    ∃ r, Chosen s escape evaluate r ∧ r.position = k ∧ r.found.inChars s = found ∧
      r.token = Delimiters.tag found isEscape s := by
  rw [Delimiters.next?, hescape k hk, hevaluate k hk] at h
  let pick (isEscape : Bool) (m : Occurrence) : Taken :=
    ⟨k, isEscape, m, (m.inChars s).expressionText s⟩
  cases he : escape k with
  | none =>
      cases hv : evaluate k with
      | none => rw [he, hv] at h; cases h
      | some v =>
          rw [he, hv] at h
          cases h
          refine ⟨pick false v, .evaluate rfl hv (fun m hm => ?_) ?_, rfl, rfl, rfl⟩
          · cases he.symm.trans hm
          · exact (hevaluate' k v hk hv).holds
  | some e =>
      have he' := hescape' k e hk he
      cases hv : evaluate k with
      | none =>
          rw [he, hv] at h
          cases h
          refine ⟨pick true e, .escape rfl he (fun m hm => ?_) he'.holds, rfl, rfl, rfl⟩
          cases hv.symm.trans hm
      | some v =>
          -- Both find something, and the starts are in the same order in bytes.
          have hv' := hevaluate' k v hk hv
          have hstarts := he'.start.charAt_le_iff hv'.start
          rw [he, hv] at h
          simp only [Option.map_some] at h
          split at h
          · next hle =>
              cases h
              refine ⟨pick true e, .escape rfl he (fun m hm => ?_) he'.holds, rfl, rfl, rfl⟩
              obtain rfl := Option.some.inj (hv.symm.trans hm)
              exact hstarts.mp hle
          · next hlt =>
              cases h
              refine ⟨pick false v, .evaluate rfl hv (fun m hm => ?_) hv'.holds, rfl, rfl, rfl⟩
              obtain rfl := Option.some.inj (he.symm.trans hm)
              exact Nat.lt_of_not_le (mt hstarts.mpr hlt)

/-- From every boundary the loop comes to an end, with the tokens of the cut. -/
theorem Loop.exists_tokensFrom (hescape : d.escape.Finds s escape)
    (hevaluate : d.evaluate.Finds s evaluate) (hescape' : escape.Sound s)
    (hevaluate' : evaluate.Sound s) (k : Nat) (hk : s.IsBoundary k) :
    ∃ rs last, Loop s escape evaluate k rs last (d.tokensFrom s (s.charAt k)) := by
  -- The recursion is on the bytes still to come, and every round uses some up.
  have hend := isBoundary_utf8Length s
  have hlength := charAt_utf8Length s
  rw [Delimiters.tokensFrom]
  by_cases hlt : k < s.utf8Length
  · rw [dif_pos (hlength ▸ (hk.charAt_lt_iff hend).mpr hlt)]
    split
    · next hnone =>
        obtain ⟨he, hv⟩ := next?_eq_none hescape hevaluate hk hnone
        have ht := hk.slice?_eq hend (Nat.le_of_lt hlt)
        rw [hlength, List.take_of_length_le (by simp)] at ht
        exact ⟨[], k, .rest hlt he hv ht⟩
    · next found isEscape hsome =>
        obtain ⟨r, hr, rfl, rfl, htoken⟩ :=
          next?_eq_some hescape hevaluate hescape' hevaluate' hk hsome
        have hwithin := hr.within hescape' hevaluate' hk
        have hgap : Gap s r.position r.found.start
            (Delimiters.gap s (s.charAt r.position) (r.found.inChars s).start) :=
          gap_charAt hk hwithin.start
        have hmoved : s.charAt r.position < (r.found.inChars s).stop
            ↔ r.position < r.found.stop := hk.charAt_lt_iff hwithin.stop
        rw [← htoken]
        by_cases hstop : r.position < r.found.stop
        · obtain ⟨rs, last, hloop⟩ := exists_tokensFrom hescape hevaluate hescape' hevaluate'
            r.found.stop hwithin.stop
          rw [dif_pos (hmoved.mpr hstop), List.append_cons]
          exact ⟨r :: rs, last, .turn hlt rfl hr (.tag hgap hstop) hloop⟩
        · -- The tag is empty and the position has not moved; behind the next character it has.
          obtain ⟨c, hc, hnext, hchar⟩ := hk.exists_char hlt
          have hpos := c.utf8Size_pos
          obtain ⟨rs, last, hloop⟩ := exists_tokensFrom hescape hevaluate hescape' hevaluate'
            (r.position + c.utf8Size) hnext
          have hcut : cut s (s.charAt r.position) (s.charAt r.position + 1) = [c] := by
            have hslice := hk.slice?_eq hnext (Nat.le_add_right _ _)
            rw [hchar] at hslice
            exact Option.some.inj (hslice.symm.trans hc)
          have hstop' : r.found.stop ≤ r.position := Nat.le_of_not_lt hstop
          rw [dif_neg (mt hmoved.mp hstop), hcut, ← hchar]
          refine ⟨r :: rs, last, ?_⟩
          simpa using Loop.turn hlt rfl hr (.emptyTag hgap hstop' hc) hloop
  · rw [dif_neg fun h => hlt ((hk.charAt_lt_iff hend).mp (hlength ▸ h))]
    exact ⟨[], k, .ended (Nat.le_of_not_lt hlt)⟩
termination_by s.utf8Length - k

/-! ## What the loop leaves -/

/-- From a byte to the end the tokens stand one behind the other: texts are what is there in the
template, and tags take up the occurrences of their rounds. -/
inductive Tiles (s : Text) : Nat → List Taken → List Token → Prop where
  | ended : Tiles s s.utf8Length [] []
  | text {lo hi : Nat} {t : Text} {rs : List Taken} {ts : List Token} (h : lo < hi)
      (ht : s.slice? lo hi = some t) (hrest : Tiles s hi rs ts) : Tiles s lo rs (.text t :: ts)
  | tag {r : Taken} {rs : List Taken} {ts : List Token} (hrest : Tiles s r.found.stop rs ts) :
      Tiles s r.found.start (r :: rs) (r.token :: ts)

theorem Gap.tiles (h : Gap s lo hi us) (hle : lo ≤ hi) (hrest : Tiles s hi rs ts) :
    Tiles s lo rs (us ++ ts) := by
  cases h with
  | some hlt ht => exact .text hlt ht hrest
  | none hge => exact Nat.le_antisymm hle hge ▸ hrest

theorem Turn.tiles (h : Turn s r us next) (hr : r.found.Within s r.position)
    (hrest : Tiles s next rs ts) : Tiles s r.position (r :: rs) (us ++ ts) := by
  cases h with
  | tag hgap _ =>
      rw [List.append_assoc]
      exact hgap.tiles hr.le_start (.tag hrest)
  | @emptyTag gap c hgap hstop hc =>
      have hstop' : r.found.stop = r.position :=
        Nat.le_antisymm hstop (Nat.le_trans hr.le_start hr.start_le)
      have hlt : r.position < r.position + c.utf8Size := Nat.lt_add_of_pos_right c.utf8Size_pos
      have htext : Tiles s r.found.stop rs (.text [c] :: ts) := hstop' ▸ .text hlt hc hrest
      rw [List.append_assoc]
      exact hgap.tiles hr.le_start (.tag htext)

namespace Loop

/-- The positions that the loop comes to. -/
def positions (rs : List Taken) (last : Nat) : List Nat := rs.map (·.position) ++ [last]

theorem round_of_mem (h : Loop s escape evaluate k rs last ts) (hr : r ∈ rs) :
    Chosen s escape evaluate r ∧ r.token ∈ ts := by
  induction h with
  | ended | rest => cases hr
  | turn _ _ hchosen hturn _ ih =>
      rcases List.mem_cons.mp hr with rfl | hr
      · refine ⟨hchosen, List.mem_append_left _ ?_⟩
        cases hturn <;> simp
      · exact ⟨(ih hr).1, List.mem_append_right _ (ih hr).2⟩

variable (hescape : escape.Sound s) (hevaluate : evaluate.Sound s)
include hescape hevaluate

theorem tiles (h : Loop s escape evaluate k rs last ts) (hk : s.IsBoundary k) :
    Tiles s k rs ts := by
  induction h with
  | ended hle => exact Nat.le_antisymm hk.le hle ▸ .ended
  | rest hlt _ _ ht => exact .text hlt ht .ended
  | turn hlt hposition hr hturn _ ih =>
      subst hposition
      have hwithin := hr.within hescape hevaluate hk
      exact hturn.tiles hwithin (ih (hturn.moves hwithin).2)

theorem boundary_of_mem (h : Loop s escape evaluate k rs last ts) (hk : s.IsBoundary k) :
    ∀ j ∈ positions rs last, k ≤ j ∧ s.IsBoundary j := by
  induction h with
  | ended | rest => exact List.forall_mem_singleton.mpr ⟨Nat.le_refl _, hk⟩
  | turn hlt hposition hr hturn _ ih =>
      subst hposition
      obtain ⟨hnext, hboundary⟩ := hturn.moves (hr.within hescape hevaluate hk)
      intro j hj
      rcases List.mem_cons.mp hj with rfl | hj
      · exact ⟨Nat.le_refl _, hk⟩
      · obtain ⟨hle, hj⟩ := ih hboundary j hj
        exact ⟨Nat.le_trans (Nat.le_of_lt hnext) hle, hj⟩

theorem pairwise_positions (h : Loop s escape evaluate k rs last ts) (hk : s.IsBoundary k) :
    (positions rs last).Pairwise (· < ·) := by
  induction h with
  | ended | rest => exact List.pairwise_singleton _ _
  | turn hlt hposition hr hturn hrest ih =>
      subst hposition
      obtain ⟨hnext, hboundary⟩ := hturn.moves (hr.within hescape hevaluate hk)
      refine List.pairwise_cons.mpr ⟨fun j hj => ?_, ih hboundary⟩
      -- Every later position is at or behind the next one.
      obtain ⟨hle, -⟩ := hrest.boundary_of_mem hescape hevaluate hboundary j hj
      exact Nat.lt_of_lt_of_le hnext hle

end Loop

/-! ## Tags with nothing in them -/

theorem Taken.step_token (hempty : r.expression = []) (q : Reading) :
    q.step r.token = .error .emptyExpression := by
  rw [token, hempty]
  cases r.isEscape <;> rfl

/-- Whatever the tokens around are, they make no template with one that is always an error. -/
theorem Node.parse_error_of_mem {t : Token} (ht : t ∈ ts)
    (herror : ∀ q : Reading, ∃ cause, q.step t = .error cause) :
    ∃ cause, parse ts = .error cause := by
  obtain ⟨before, after, rfl⟩ := List.append_of_mem ht
  rw [parse_append_eq_run]
  cases Reading.start.advance before with
  | error cause => exact ⟨cause, rfl⟩
  | ok q =>
      obtain ⟨cause, hcause⟩ := herror q
      refine ⟨cause, ?_⟩
      show q.run (t :: after) = _
      rw [Reading.run, hcause]
      rfl

/-! ## Any two searches -/

/-- What the loop over two searches makes of a template: the tokens, by these rounds. -/
structure CutBy (s : Text) (escape evaluate : ByteSearch) (rs : List Taken) (last : Nat)
    (ts : List Token) : Prop where
  /-- The loop comes to an end, and to no other. -/
  loop : ∀ rs' last' ts',
    Loop s escape evaluate 0 rs' last' ts' ↔ rs' = rs ∧ last' = last ∧ ts' = ts
  increasing : (Loop.positions rs last).Pairwise (· < ·)
  boundary : ∀ k ∈ Loop.positions rs last, s.IsBoundary k
  tiles : Tiles s 0 rs ts
  found : ∀ r ∈ rs, (if r.isEscape then escape else evaluate) r.position = some r.found
  within : ∀ r ∈ rs, r.found.Within s r.position
  /-- Neither search reports an earlier start than the one that is taken. -/
  earliest : ∀ r ∈ rs, ∀ m, escape r.position = some m ∨ evaluate r.position = some m →
    r.found.start ≤ m.start
  tie : ∀ r ∈ rs, ∀ m, escape r.position = some m → m.start = r.found.start → r.isEscape = true
  empty : ∀ r ∈ rs, r.found.start = r.found.stop → r.expression = []

/-- The cut comes to an end for any two searches, with tokens that tile the template; and a tag
that is empty makes it no template. -/
theorem tokens_cutBy (d : Delimiters) (s : Text) (escape evaluate : ByteSearch)
    (hescape : d.escape.Finds s escape) (hevaluate : d.evaluate.Finds s evaluate)
    (hescape' : escape.Sound s) (hevaluate' : evaluate.Sound s) :
    ∃ rs last, CutBy s escape evaluate rs last (d.tokens s) ∧
      ((∃ r ∈ rs, r.found.start = r.found.stop) →
        ∃ cause, ∀ strict data, render strict d s data = .fail (.template cause)) := by
  have hzero := isBoundary_zero s
  obtain ⟨rs, last, hloop⟩ :=
    Loop.exists_tokensFrom hescape hevaluate hescape' hevaluate' 0 hzero
  rw [charAt_zero] at hloop
  have hboundary := hloop.boundary_of_mem hescape' hevaluate' hzero
  have hchosen : ∀ r ∈ rs, Chosen s escape evaluate r := fun r hr => (hloop.round_of_mem hr).1
  have hwithin : ∀ r ∈ rs, r.found.Within s r.position := by
    intro r hr
    have hmem : r.position ∈ Loop.positions rs last :=
      List.mem_append_left _ (List.mem_map_of_mem hr)
    exact (hchosen r hr).within hescape' hevaluate' (hboundary _ hmem).2
  have hempty : ∀ r ∈ rs, r.found.start = r.found.stop → r.expression = [] :=
    fun r hr hextent => (hwithin r hr).eq_nil (hchosen r hr).holds hextent
  refine ⟨rs, last, ?_, ?_⟩
  · exact {
      loop := fun rs' last' ts' => ⟨fun h => h.unique hloop, by rintro ⟨rfl, rfl, rfl⟩; exact hloop⟩
      increasing := hloop.pairwise_positions hescape' hevaluate' hzero
      boundary := fun k hk => (hboundary k hk).2
      tiles := hloop.tiles hescape' hevaluate' hzero
      found := fun r hr => (hchosen r hr).found_eq
      within := hwithin
      earliest := fun r hr m hm => (hchosen r hr).earliest hm
      tie := fun r hr m hm hstart => (hchosen r hr).tie hm hstart
      empty := hempty }
  · rintro ⟨r, hr, hextent⟩
    obtain ⟨cause, hcause⟩ := Node.parse_error_of_mem (hloop.round_of_mem hr).2
      fun q => ⟨_, Taken.step_token (hempty r hr hextent) q⟩
    refine ⟨cause, fun strict data => ?_⟩
    rw [render, Delimiters.tokens, hcause]

/-- A search that finds nothing but the empty text, before `éab` and behind it. -/
def emptyTags : ByteSearch := fun k =>
  if k = 0 then some ⟨0, 0, none⟩ else some ⟨4, 4, some (4, 4)⟩

/-- A search that finds the first two characters of `éab`. -/
def letterTags : ByteSearch := fun k =>
  if k = 0 then some ⟨0, 2, some (0, 2)⟩
  else if k ≤ 2 then some ⟨2, 3, some (2, 3)⟩ else none

/-- At byte 0 both searches find something, and the loop has to step over a character of two bytes;
the last tag is behind the text. -/
theorem tokens_cutBy_emptyTags :
    let s := "éab".toList
    let d : Delimiters := ⟨.ofBytes [] fun _ => emptyTags, .ofBytes [] fun _ => letterTags⟩
    emptyTags.Sound s ∧ letterTags.Sound s ∧
      CutBy s emptyTags letterTags
        [⟨0, true, ⟨0, 0, none⟩, []⟩, ⟨2, false, ⟨2, 3, some (2, 3)⟩, ['a']⟩,
          ⟨3, true, ⟨4, 4, some (4, 4)⟩, []⟩] 4
        [.escape [], .text ['é'], .evaluate ['a'], .text ['b'], .escape []] ∧
      ∃ cause, ∀ strict data, render strict d s data = .fail (.template cause) := by
  intro s d
  have hempty : emptyTags.Sound s := by
    intro k m hk hm
    have hle : k ≤ 4 := hk.le
    interval_cases k <;> cases hm <;> constructor <;> decide
  have hletter : letterTags.Sound s := by
    intro k m hk hm
    have hle : k ≤ 4 := hk.le
    interval_cases k <;> cases hm <;> constructor <;> decide
  obtain ⟨rs, last, hcut, hfail⟩ := tokens_cutBy d s emptyTags letterTags
    (Delimiter.finds_ofBytes [] (fun _ => emptyTags) s)
    (Delimiter.finds_ofBytes [] (fun _ => letterTags) s) hempty hletter
  have hloop : Loop s emptyTags letterTags 0
      [⟨0, true, ⟨0, 0, none⟩, []⟩, ⟨2, false, ⟨2, 3, some (2, 3)⟩, ['a']⟩,
        ⟨3, true, ⟨4, 4, some (4, 4)⟩, []⟩] 4
      (([] ++ [.escape [], .text ['é']]) ++ (([] ++ [.evaluate ['a']])
        ++ (([.text ['b']] ++ [.escape []]) ++ []))) :=
    .turn (by decide) rfl (.escape rfl rfl (fun _ _ => Nat.zero_le _) (.unset rfl))
      (.emptyTag (.none (Nat.le_refl 0)) (Nat.le_refl 0) (by decide))
      (.turn (by decide) rfl
        (.evaluate rfl rfl (fun m hm => by cases hm; decide) (.group rfl (by decide)))
        (.tag (.none (Nat.le_refl 2)) (by decide))
        (.turn (by decide) rfl (.escape rfl rfl (fun m hm => by cases hm) (.group rfl (by decide)))
          (.tag (.some (by decide) (by decide)) (by decide)) (.ended (by decide))))
  obtain ⟨rfl, rfl, htokens⟩ := (hcut.loop _ _ _).mp hloop
  rw [← htokens] at hcut
  exact ⟨hempty, hletter, hcut, hfail ⟨_, List.mem_cons_self, rfl⟩⟩

end Explainer.Template
