import Explainer.Proofs.RegexProgram
import Explainer.Regex.Search

/-!
# Remembering places changes nothing

A search remembers the places of the program that it has reached, each with
its position in the text, and does not follow the program from one of them
again. This file compares it with the search that remembers nothing and turns
back only where a way ends. That one may go round in circles, so it is told how
deep to go and has an outcome only where it ends: `outcome`. Wherever it has
one, the search that remembers finds the same.

A place that was reached before may be passed over for one of two reasons.
Either nothing was found from it, or it is still being followed; but then the
plain search, coming back to a place on its way from there, would not end at
all. `Spent` is the invariant that holds both cases together: from a reached
place the plain search finds nothing within the depth it has left, if it ends
within that depth. A step deeper the invariant asks for less, so that the
place which is being followed satisfies it, and when the place is left behind
nothing has been found from it.

The fuel is bookkeeping. A step either drops a thread whose place was reached,
or marks a place and adds at most two threads, so twice the places not yet
marked and the threads that wait are enough.
-/

namespace Explainer.Regex

/-- The thread with older records behind its own. -/
def Thread.behind (t : Thread) (older : Slots) : Thread :=
  { t with slots := t.slots ++ older }

namespace Program

variable {p : Program} {s : Array Char} {t u : Thread} {ts rest : List Thread}
  {r : Option Thread} {n fuel : Nat} {seen seen' : Array Bool}

/-! ## The plain search -/

/-- What the plain search finds from a thread, along ways of fewer than so many
steps; `none` if it does not end within them. -/
def outcome (p : Program) (s : Array Char) : Nat → Thread → Option (Option Thread)
  | 0, _ => none
  | n + 1, t =>
    match p.next s t with
    | none => some (some t)
    | some ts => ts.findSomeM? (p.outcome s n)

/-- The plain search ends, with this outcome. -/
def Yields (p : Program) (s : Array Char) (t : Thread) (r : Option Thread) : Prop :=
  ∃ n, p.outcome s n t = some r

theorem findSomeM?_cons (f : Thread → Option (Option Thread)) (t : Thread)
    (ts : List Thread) :
    (t :: ts).findSomeM? f =
      match f t with
      | none => none
      | some none => ts.findSomeM? f
      | some (some u) => some (some u) := by
  rw [List.findSomeM?]
  cases f t with
  | none => rfl
  | some r => cases r <;> rfl

theorem findSomeM?_mono {f g : Thread → Option (Option Thread)}
    (hfg : ∀ t r, f t = some r → g t = some r) :
    ∀ {ts : List Thread}, ts.findSomeM? f = some r → ts.findSomeM? g = some r := by
  intro ts
  induction ts with
  | nil => intro h; exact h
  | cons t ts ih =>
      intro h
      rw [findSomeM?_cons] at h ⊢
      cases hf : f t with
      | none => simp only [hf] at h; cases h
      | some x =>
          rw [hfg t x hf]
          rw [hf] at h
          cases x with
          | none => exact ih h
          | some u => exact h

/-- What has been found stays found when more steps are allowed. -/
theorem outcome_succ : ∀ {n : Nat} {t : Thread},
    p.outcome s n t = some r → p.outcome s (n + 1) t = some r := by
  intro n
  induction n generalizing r with
  | zero => intro t h; cases h
  | succ n ih =>
      intro t h
      rw [outcome] at h ⊢
      cases hnext : p.next s t with
      | none => rw [hnext] at h; exact h
      | some ts =>
          rw [hnext] at h
          exact findSomeM?_mono (fun _ _ => ih) h

theorem outcome_mono {m : Nat} (hle : n ≤ m) (h : p.outcome s n t = some r) :
    p.outcome s m t = some r := by
  induction hle with
  | refl => exact h
  | step _ ih => exact outcome_succ ih

theorem outcome_unique {m : Nat} {r' : Option Thread}
    (h : p.outcome s n t = some r) (h' : p.outcome s m t = some r') : r = r' := by
  have h1 := outcome_mono (Nat.le_max_left n m) h
  have h2 := outcome_mono (Nat.le_max_right n m) h'
  rw [h1] at h2
  exact Option.some.inj h2

/-! ## One instruction of the plain search -/

section Steps

variable {i j k q slot : Nat} {slots : Slots}

theorem Yields.step (hnext : p.next s t = some [u]) (h : p.Yields s u r) :
    p.Yields s t r := by
  obtain ⟨n, hn⟩ := h
  refine ⟨n + 1, ?_⟩
  rw [outcome, hnext]
  show [u].findSomeM? (p.outcome s n) = some r
  rw [findSomeM?_cons, hn]
  cases r <;> rfl

theorem yields_accept (hi : p.code[i]? = some .accept) :
    p.Yields s ⟨i, q, slots⟩ (some ⟨i, q, slots⟩) :=
  ⟨1, by simp [outcome, next, hi]⟩

theorem yields_char {set : CharSet} {c : Char} (hi : p.code[i]? = some (.char set j))
    (hc : s[q]? = some c) (hset : set.contains c)
    (h : p.Yields s ⟨j, q + 1, slots⟩ r) : p.Yields s ⟨i, q, slots⟩ r :=
  h.step (by simp [next, hi, hc, hset])

theorem yields_char_none {set : CharSet} (hi : p.code[i]? = some (.char set j))
    (hc : ∀ c, s[q]? = some c → ¬ set.contains c) :
    p.Yields s ⟨i, q, slots⟩ none := by
  have hnext : p.next s ⟨i, q, slots⟩ = some [] := by
    cases hq : s[q]? with
    | none => simp [next, hi, hq]
    | some c => simp [next, hi, hq, hc c hq]
  exact ⟨1, by rw [outcome, hnext]; rfl⟩

theorem yields_save (hi : p.code[i]? = some (.save slot j))
    (h : p.Yields s ⟨j, q, (slot, q) :: slots⟩ r) : p.Yields s ⟨i, q, slots⟩ r :=
  h.step (by simp [next, hi])

/-- The second way counts where the first comes to nothing. -/
theorem yields_split {r' : Option Thread} (hi : p.code[i]? = some (.split j k))
    (h : p.Yields s ⟨j, q, slots⟩ r) (h' : p.Yields s ⟨k, q, slots⟩ r') :
    p.Yields s ⟨i, q, slots⟩ (r.or r') := by
  obtain ⟨n, hn⟩ := h
  obtain ⟨m, hm⟩ := h'
  have h1 := outcome_mono (Nat.le_max_left n m) hn
  have h2 := outcome_mono (Nat.le_max_right n m) hm
  refine ⟨max n m + 1, ?_⟩
  have hnext : p.next s ⟨i, q, slots⟩ = some [⟨j, q, slots⟩, ⟨k, q, slots⟩] := by
    simp [next, hi]
  rw [outcome, hnext]
  show [_, _].findSomeM? (p.outcome s (max n m)) = _
  rw [findSomeM?_cons, findSomeM?_cons, h1, h2]
  cases r <;> cases r' <;> rfl

end Steps

/-! ## Records do not direct the search -/

theorem next_behind (t : Thread) (older : Slots) :
    p.next s (t.behind older) = (p.next s t).map (List.map (·.behind older)) := by
  simp only [next, Thread.behind]
  cases p.code[t.instruction]? with
  | none => rfl
  | some i =>
      cases i with
      | char set j =>
          simp only []
          rw [apply_ite (Option.map _)]
          rfl
      | look l w j =>
          simp only []
          rw [apply_ite (Option.map _)]
          rfl
      | split j k => rfl
      | save slot j => rfl
      | accept => rfl

theorem outcome_behind (older : Slots) : ∀ {n : Nat} {t : Thread},
    p.outcome s n (t.behind older) =
      (p.outcome s n t).map (Option.map (·.behind older)) := by
  intro n
  induction n with
  | zero => intro t; rfl
  | succ n ih =>
      intro t
      simp only [outcome, next_behind]
      cases p.next s t with
      | none => rfl
      | some ts =>
          show (ts.map (·.behind older)).findSomeM? (p.outcome s n) =
            (ts.findSomeM? (p.outcome s n)).map (Option.map (·.behind older))
          induction ts with
          | nil => rfl
          | cons u us ihs =>
              rw [List.map_cons, findSomeM?_cons, findSomeM?_cons, ih]
              cases p.outcome s n u with
              | none => rfl
              | some x =>
                  cases x with
                  | none => exact ihs
                  | some v => rfl

def SamePlace (t u : Thread) : Prop :=
  t.instruction = u.instruction ∧ t.position = u.position

/-- Whether something is found depends on the place alone. -/
theorem outcome_samePlace (h : SamePlace t u) :
    (p.outcome s n t).map Option.isSome = (p.outcome s n u).map Option.isSome := by
  have hbare : ∀ v : Thread, (p.outcome s n v).map Option.isSome
      = (p.outcome s n ⟨v.instruction, v.position, []⟩).map Option.isSome := by
    intro v
    have hv := outcome_behind (p := p) (s := s) v.slots (n := n)
      (t := ⟨v.instruction, v.position, []⟩)
    rw [show (⟨v.instruction, v.position, []⟩ : Thread).behind v.slots = v from rfl] at hv
    rw [hv, Option.map_map]
    congr 1
    funext x
    cases x <;> rfl
  rw [hbare t, hbare u, h.1, h.2]

/-- Nothing is found from the thread. -/
def Dead (p : Program) (s : Array Char) (t : Thread) : Prop := p.Yields s t none

theorem Dead.samePlace (h : p.Dead s t) (hu : SamePlace t u) : p.Dead s u := by
  obtain ⟨n, hn⟩ := h
  have hplace := outcome_samePlace (p := p) (s := s) (n := n) hu
  rw [hn] at hplace
  refine ⟨n, ?_⟩
  cases hout : p.outcome s n u with
  | none => rw [hout] at hplace; cases hplace
  | some x =>
      cases x with
      | none => rfl
      | some v => rw [hout] at hplace; cases hplace

/-! ## Places -/

/-- The thread is at an instruction of the program and a position of the text. -/
def Within (p : Program) (s : Array Char) (t : Thread) : Prop :=
  t.instruction < p.code.size ∧ t.position ≤ s.size

/-- A step stays within, and leads to two threads at most. -/
theorem next_within (hclosed : p.Closed) (ht : p.Within s t)
    (h : p.next s t = some ts) : (∀ u ∈ ts, p.Within s u) ∧ ts.length ≤ 2 := by
  obtain ⟨i, hi⟩ : ∃ i, p.code[t.instruction]? = some i :=
    ⟨_, Array.getElem?_eq_getElem ht.1⟩
  have hwithin : ∀ {j q slots}, j ∈ i.targets → q ≤ s.size →
      p.Within s ⟨j, q, slots⟩ :=
    fun hj hq => ⟨hclosed.targets_lt i (Array.mem_of_getElem? hi) _ hj, hq⟩
  simp only [next, hi] at h
  cases i with
  | char set j =>
      cases hc : s[t.position]? with
      | none =>
          simp only [hc] at h
          cases h
          simp
      | some c =>
          have hlt : t.position < s.size := (Array.getElem?_eq_some_iff.mp hc).1
          simp only [hc] at h
          split at h <;> cases h
          · simpa using hwithin (List.mem_singleton_self j) hlt
          · simp
  | look l w j =>
      generalize (if t.position = 0 then none else s[t.position - 1]?) = before at h
      simp only [] at h
      split at h <;> cases h
      · simpa using hwithin (List.mem_singleton_self j) ht.2
      · simp
  | split j k =>
      cases h
      simpa using ⟨hwithin List.mem_cons_self ht.2,
        hwithin (List.mem_cons_of_mem j (List.mem_singleton_self k)) ht.2⟩
  | save slot j =>
      cases h
      simpa using hwithin (List.mem_singleton_self j) ht.2
  | accept => cases h

/-- The number under which a place is remembered. -/
def place (p : Program) (t : Thread) : Nat :=
  t.position * p.code.size + t.instruction

def places (p : Program) (s : Array Char) : Nat := (s.size + 1) * p.code.size

theorem place_lt (ht : p.Within s t) : p.place t < p.places s := by
  calc t.position * p.code.size + t.instruction
      < t.position * p.code.size + p.code.size := Nat.add_lt_add_left ht.1 _
    _ = (t.position + 1) * p.code.size := (Nat.succ_mul _ _).symm
    _ ≤ (s.size + 1) * p.code.size :=
        Nat.mul_le_mul_right _ (Nat.succ_le_succ ht.2)

theorem samePlace_of_place_eq (ht : p.Within s t) (hu : p.Within s u)
    (h : p.place t = p.place u) : SamePlace t u := by
  have hmod := congrArg (· % p.code.size) h
  have hdiv := congrArg (· / p.code.size) h
  have hpos : 0 < p.code.size := Nat.zero_lt_of_lt ht.1
  simp only [place, Nat.mul_comm _ p.code.size, Nat.mul_add_mod,
    Nat.mod_eq_of_lt ht.1, Nat.mod_eq_of_lt hu.1] at hmod
  simp only [place, Nat.mul_comm _ p.code.size, Nat.mul_add_div hpos,
    Nat.div_eq_of_lt ht.1, Nat.div_eq_of_lt hu.1, Nat.add_zero] at hdiv
  exact ⟨hmod, hdiv⟩

/-! ## What is remembered -/

/-- The place of the thread has been reached, or there is no such place. -/
def Reached (p : Program) (seen : Array Bool) (t : Thread) : Prop :=
  seen[p.place t]?.getD true = true

def mark (p : Program) (seen : Array Bool) (t : Thread) : Array Bool :=
  seen.setIfInBounds (p.place t) true

@[simp]
theorem size_mark : (p.mark seen t).size = seen.size := Array.size_setIfInBounds

theorem reached_mark_iff :
    p.Reached (p.mark seen t) u ↔ p.place t = p.place u ∨ p.Reached seen u := by
  simp only [Reached, mark, Array.getElem?_setIfInBounds]
  split
  · next h =>
      rw [eq_true h, true_or, iff_true]
      split <;> rfl
  · next h => rw [eq_false h, false_or]

def unmarked (seen : Array Bool) : Nat := seen.countP (!·)

theorem unmarked_mark (h : ¬ p.Reached seen t) :
    unmarked (p.mark seen t) + 1 = unmarked seen := by
  have hlt : p.place t < seen.size := by
    rcases Nat.lt_or_ge (p.place t) seen.size with hlt | hge
    · exact hlt
    · exact absurd (by rw [Reached, Array.getElem?_eq_none hge]; rfl) h
  have hfalse : seen[p.place t] = false := by
    rw [Reached, Array.getElem?_eq_getElem hlt] at h
    simpa using h
  have hpos : 0 < seen.countP (!·) :=
    Array.countP_pos_iff.mpr ⟨seen[p.place t], Array.getElem_mem hlt, by rw [hfalse]; rfl⟩
  simp only [unmarked, mark, Array.setIfInBounds_def, dif_pos hlt, Array.countP_set,
    hfalse]
  show seen.countP (!·) - 1 + 0 + 1 = seen.countP (!·)
  omega

/-- From a reached place nothing is found, as far as ways of this depth go. -/
def Spent (p : Program) (s : Array Char) (n : Nat) (seen : Array Bool) : Prop :=
  ∀ t r, p.Within s t → p.Reached seen t → p.outcome s n t = some r → r = none

structure Adds (p : Program) (s : Array Char) (seen seen' : Array Bool) : Prop where
  size : seen'.size = seen.size
  dead : ∀ t, p.Within s t → p.Reached seen' t → p.Reached seen t ∨ p.Dead s t

namespace Adds

theorem refl : p.Adds s seen seen := ⟨rfl, fun _ _ h => .inl h⟩

theorem trans {seen'' : Array Bool} (h : p.Adds s seen seen')
    (h' : p.Adds s seen' seen'') : p.Adds s seen seen'' where
  size := h'.size.trans h.size
  dead t ht hr := (h'.dead t ht hr).elim (h.dead t ht) .inr

theorem spent (h : p.Adds s seen seen') (hspent : p.Spent s n seen) :
    p.Spent s n seen' := by
  intro t r ht hr hout
  rcases h.dead t ht hr with hold | ⟨m, hm⟩
  · exact hspent t r ht hold hout
  · exact outcome_unique hout hm

/-- Once its place is dead, marking a thread adds nothing but the dead. -/
theorem of_mark (h : p.Adds s (p.mark seen t) seen') (ht : p.Within s t)
    (hdead : p.Dead s t) : p.Adds s seen seen' where
  size := h.size.trans size_mark
  dead u hu hr := by
    rcases h.dead u hu hr with hmark | hdead'
    · rcases reached_mark_iff.mp hmark with hplace | hold
      · exact .inr (hdead.samePlace (samePlace_of_place_eq ht hu hplace))
      · exact .inl hold
    · exact .inr hdead'

end Adds

theorem Spent.pred (h : p.Spent s (n + 1) seen) : p.Spent s n seen :=
  fun t r ht hr hout => h t r ht hr (outcome_succ hout)

/-- A place may be marked while it is being followed: coming back to it, the
plain search would not end within the depth that is left. -/
theorem Spent.mark (h : p.Spent s n seen) (ht : p.Within s t)
    (hopen : p.outcome s n t = none) : p.Spent s n (p.mark seen t) := by
  intro u r hu hr hout
  rcases reached_mark_iff.mp hr with hplace | hold
  · have hsame := outcome_samePlace (p := p) (s := s) (n := n)
      (samePlace_of_place_eq ht hu hplace)
    rw [hopen, hout] at hsame
    cases hsame
  · exact h u r hu hold hout

/-! ## Following threads -/

def Suffices (fuel : Nat) (ts : List Thread) (seen : Array Bool) : Prop :=
  2 * unmarked seen + ts.length ≤ fuel

theorem follow_nil : p.follow s fuel [] seen = (none, seen) := by
  cases fuel <;> rfl

theorem follow_cons_reached (h : p.Reached seen t) :
    p.follow s (fuel + 1) (t :: rest) seen = p.follow s fuel rest seen := by
  rw [follow]
  exact if_pos h

theorem follow_cons_new (h : ¬ p.Reached seen t) :
    p.follow s (fuel + 1) (t :: rest) seen =
      match p.next s t with
      | none => (some t, p.mark seen t)
      | some ts => p.follow s fuel (ts ++ rest) (p.mark seen t) := by
  rw [follow]
  exact if_neg h

/-- Following threads comes to an outcome, with others waiting behind them: what
is found is the answer, and if nothing is found the others are next. -/
def ComesTo (p : Program) (s : Array Char) (fuel : Nat) (ts rest : List Thread)
    (seen : Array Bool) : Option Thread → Prop
  | some u => (p.follow s fuel (ts ++ rest) seen).1 = some u
  | none => ∃ fuel' seen',
      p.follow s fuel (ts ++ rest) seen = p.follow s fuel' rest seen' ∧
        p.Adds s seen seen' ∧ Suffices fuel' rest seen'

/-- From a single thread, what the plain search finds within a depth is what
following it comes to. -/
def Agrees (p : Program) (s : Array Char) (n : Nat) : Prop :=
  ∀ {t r rest seen fuel}, p.Within s t → p.outcome s n t = some r →
    p.Spent s n seen → Suffices fuel (t :: rest) seen →
    p.ComesTo s fuel [t] rest seen r

theorem Agrees.threads (hn : p.Agrees s n) : ∀ {ts : List Thread} {seen fuel},
    (∀ t ∈ ts, p.Within s t) → ts.findSomeM? (p.outcome s n) = some r →
    p.Spent s n seen → Suffices fuel (ts ++ rest) seen →
    p.ComesTo s fuel ts rest seen r := by
  intro ts
  induction ts with
  | nil =>
      intro seen fuel _ h _ hfuel
      cases h
      exact ⟨fuel, seen, rfl, .refl, hfuel⟩
  | cons t ts ih =>
      intro seen fuel hts h hspent hfuel
      obtain ⟨ht, hts⟩ := List.forall_mem_cons.mp hts
      rw [findSomeM?_cons] at h
      cases hout : p.outcome s n t with
      | none => rw [hout] at h; cases h
      | some x =>
          rw [hout] at h
          have hfirst : p.ComesTo s fuel [t] (ts ++ rest) seen x :=
            hn ht hout hspent hfuel
          cases x with
          | some u => cases h; exact hfirst
          | none =>
              obtain ⟨fuel', seen', heq, hadds, hfuel'⟩ := hfirst
              have hrest := ih hts h (hadds.spent hspent) hfuel'
              cases r with
              | some u => exact (congrArg Prod.fst heq).trans hrest
              | none =>
                  obtain ⟨fuel'', seen'', heq', hadds', hfuel''⟩ := hrest
                  exact ⟨fuel'', seen'', heq.trans heq', hadds.trans hadds', hfuel''⟩

theorem agrees (hclosed : p.Closed) : ∀ n, p.Agrees s n := by
  intro n
  induction n with
  | zero => intro t r rest seen fuel _ hout; cases hout
  | succ n ih =>
      intro t r rest seen fuel ht hout hspent hfuel
      cases hopen : p.outcome s n t with
      | some r' =>
          -- the plain search ends sooner than it has to
          cases outcome_unique hopen hout
          exact ih ht hopen hspent.pred hfuel
      | none =>
          obtain ⟨fuel, rfl⟩ : ∃ m, fuel = m + 1 :=
            ⟨fuel - 1, by rw [Suffices, List.length_cons] at hfuel; omega⟩
          by_cases hreached : p.Reached seen t
          · cases hspent t r ht hreached hout
            refine ⟨fuel, seen, follow_cons_reached hreached, .refl, ?_⟩
            rw [Suffices, List.length_cons] at hfuel
            rw [Suffices]
            omega
          · have hnew : p.follow s (fuel + 1) (t :: rest) seen = _ :=
              follow_cons_new hreached
            have hunmarked := unmarked_mark hreached
            rw [outcome] at hout
            cases hnext : p.next s t with
            | none =>
                rw [hnext] at hout hnew
                cases hout
                exact congrArg Prod.fst hnew
            | some ts =>
                rw [hnext] at hnew hout
                obtain ⟨hts, htwo⟩ := next_within hclosed ht hnext
                have hfuel' : Suffices fuel (ts ++ rest) (p.mark seen t) := by
                  rw [Suffices, List.length_cons] at hfuel
                  rw [Suffices, List.length_append]
                  omega
                have hways := ih.threads hts hout (hspent.pred.mark ht hopen) hfuel'
                cases r with
                | some u => exact (congrArg Prod.fst hnew).trans hways
                | none =>
                    obtain ⟨fuel', seen', heq, hadds, hrest⟩ := hways
                    have hdead : p.Dead s t := ⟨n + 1, by rw [outcome, hnext]; exact hout⟩
                    exact ⟨fuel', seen', hnew.trans heq, hadds.of_mark ht hdead, hrest⟩

/-! ## Searching -/

def AllDead (p : Program) (s : Array Char) (seen : Array Bool) : Prop :=
  ∀ t, p.Within s t → p.Reached seen t → p.Dead s t

/-- From a single thread the search that remembers finds what the plain search
does, and having found nothing it remembers only what is dead. -/
theorem follow_eq (hclosed : p.Closed) (ht : p.Within s t) (h : p.Yields s t r)
    (hseen : p.AllDead s seen) :
    (p.follow s (2 * seen.size + 1) [t] seen).1 = r ∧
      (r = none → p.AllDead s (p.follow s (2 * seen.size + 1) [t] seen).2) := by
  obtain ⟨n, hn⟩ := h
  have hspent : p.Spent s n seen := by
    intro u x hu hr hout
    obtain ⟨m, hm⟩ := hseen u hu hr
    exact outcome_unique hout hm
  have hfuel : Suffices (2 * seen.size + 1) [t] seen :=
    Nat.add_le_add_right (Nat.mul_le_mul_left 2 Array.countP_le_size) 1
  have hcomes : p.ComesTo s (2 * seen.size + 1) [t] [] seen r :=
    agrees hclosed n ht hn hspent hfuel
  cases r with
  | some u => exact ⟨hcomes, fun h => by cases h⟩
  | none =>
      obtain ⟨fuel', seen', heq, hadds, _⟩ := hcomes
      rw [follow_nil] at heq
      rw [show p.follow s (2 * seen.size + 1) [t] seen = (none, seen') from heq]
      refine ⟨rfl, fun _ u hu hr => ?_⟩
      exact (hadds.dead u hu hr).elim (hseen u hu) id

/-- The occurrence that a search from one position finds, if it finds one. -/
def foundAt (f : Nat → Option Thread) (q : Nat) : Option Found :=
  (f q).map fun t => ⟨q, t.position, t.slots⟩

theorem searchFrom_eq (hclosed : p.Closed) {f : Nat → Option Thread}
    (hf : ∀ q ≤ s.size, p.Yields s ⟨p.start, q, []⟩ (f q)) :
    ∀ {count q seen}, q + count ≤ s.size + 1 → p.AllDead s seen →
      p.searchFrom s q seen count = (List.range' q count).findSome? (foundAt f) := by
  intro count
  induction count with
  | zero => intro q seen _ _; rfl
  | succ count ih =>
      intro q seen hq hseen
      have hle : q ≤ s.size := by omega
      obtain ⟨hres, hdead⟩ := follow_eq hclosed ⟨hclosed.start_lt, hle⟩ (hf q hle) hseen
      rw [List.range'_succ, List.findSome?_cons, searchFrom, foundAt]
      cases hfq : f q with
      | some t =>
          rw [hfq] at hres
          split
          · next u _ hfollow =>
              rw [hfollow] at hres
              cases hres
              rfl
          · next hfollow => rw [hfollow] at hres; cases hres
      | none =>
          rw [hfq] at hres
          split
          · next hfollow => rw [hfollow] at hres; cases hres
          · next seen' hfollow =>
              have hdead' := hdead hfq
              rw [hfollow] at hdead'
              exact ih (by omega) hdead'

theorem allDead_replicate : p.AllDead s (Array.replicate (p.places s) false) := by
  intro t ht hr
  rw [Reached, Array.getElem?_replicate, if_pos (place_lt ht)] at hr
  cases hr

/-- If the plain search ends from every position, the search finds what the
plain search finds from the first position from which it finds anything. -/
theorem search_eq (hclosed : p.Closed) {text : Text} {f : Nat → Option Thread}
    (hf : ∀ q ≤ text.length, p.Yields text.toArray ⟨p.start, q, []⟩ (f q))
    (position : Nat) :
    p.search text position =
      (List.range' position (text.length + 1 - position)).findSome? (foundAt f) := by
  rcases Nat.lt_or_ge text.length position with hlt | hle
  · rw [search, List.size_toArray, Nat.sub_eq_zero_of_le hlt]
    rfl
  · refine searchFrom_eq hclosed hf ?_ allDead_replicate
    rw [List.size_toArray]
    omega

end Program

end Explainer.Regex
