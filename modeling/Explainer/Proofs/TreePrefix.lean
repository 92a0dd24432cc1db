import Explainer.Proofs.TreeMachine

/-!
# What the beginning of a template decides

A template is judged from left to right, and the judgement on its beginning
stands. If the tokens so far cannot be read for any reason but a block that is
still open, then nothing that follows can help, and the error stays the same.
If a block is open, the beginning can be completed: closing as many blocks as
are open makes it a template, and closing more or fewer does not. And behind a
complete template there is nothing to close.

The machine of the tree reader shows why. Its `run` is an `advance` over the
tokens and a `finish` at their end. Only `finish` speaks of open blocks, so an
error of the advance is none that more tokens could mend, and the advance over
a beginning is part of every run that starts with it. What `finish` looks at
is the stack, and the stack is a count: it has grown by the tags that open a
block and shrunk by those that close one.
-/

namespace Explainer.Template

/-! ## Tags that open and tags that close -/

def Directive.opens : Directive → Bool
  | .branch .. | .loop .. => true
  | .otherwise | .close => false

namespace Token

/-- The directive that the token is, if it is a proper one. -/
def directive? : Token → Option Directive
  | .evaluate raw => (Directive.parse raw).toOption
  | .text _ | .escape _ => none

/-- Whether the token opens a block. -/
def opens (t : Token) : Bool := t.directive?.any Directive.opens

/-- Whether the token closes a block: an `end`, however it is spaced. -/
def closes (t : Token) : Bool := t.directive? == some .close

theorem directive?_evaluate {raw : Text} {d : Directive}
    (h : Directive.parse raw = .ok d) : (evaluate raw).directive? = some d := by
  rw [directive?, h]
  rfl

theorem closes_evaluate {raw : Text} :
    (evaluate raw).closes = true ↔ Directive.parse raw = .ok .close := by
  rw [closes, directive?]
  cases Directive.parse raw with
  | error e => simp [Except.toOption]
  | ok d => simp [Except.toOption]

end Token

/-- At the end of the tokens `k` blocks are open: that many more have been
opened than closed. -/
def OpenBlocks (ts : List Token) (k : Nat) : Prop :=
  ts.countP Token.opens = ts.countP Token.closes + k

/-! ## No token is at fault for an open block -/

/-- Whether the error is a block that has no end. -/
def TemplateError.isUnclosed : TemplateError → Bool
  | .unclosed _ => true
  | _ => false

theorem isUnclosed_of_readPath {expression : Text} {e : TemplateError}
    (h : readPath expression = .error e) : e.isUnclosed = false := by
  simp only [readPath] at h
  split at h
  · cases h; rfl
  · split at h <;> cases h
    rfl

theorem isUnclosed_of_directive {raw : Text} {e : TemplateError}
    (h : Directive.parse raw = .error e) : e.isUnclosed = false := by
  have hpath : ∀ {p : Text} {f : Text → Directive},
      (readPath p).map f = .error e → e.isUnclosed = false := by
    intro p f hf
    cases hp : readPath p with
    | ok path => rw [hp] at hf; cases hf
    | error e' =>
        rw [hp] at hf
        cases hf
        exact isUnclosed_of_readPath hp
  unfold Directive.parse Directive.ofWords at h
  repeat' split at h
  all_goals first
    | exact hpath h
    | (cases h; done)
    | (cases h; rfl)

namespace Reading

theorem isUnclosed_of_step {r : Reading} {t : Token} {e : TemplateError}
    (h : r.step t = .error e) : e.isUnclosed = false := by
  cases t with
  | text t => cases h
  | escape x =>
      simp only [step] at h
      cases hp : readPath x with
      | ok path => rw [hp] at h; cases h
      | error e' =>
          rw [hp] at h
          cases h
          exact isUnclosed_of_readPath hp
  | evaluate raw =>
      simp only [step] at h
      cases hd : Directive.parse raw with
      | error e' =>
          rw [hd] at h
          cases h
          exact isUnclosed_of_directive hd
      | ok d =>
          rw [hd] at h
          cases d with
          | branch negate path | loop binder path => cases h
          | otherwise =>
              simp only [bind, Except.bind, divide] at h
              split at h <;> cases h
              rfl
          | close =>
              simp only [bind, Except.bind, close] at h
              split at h <;> cases h
              rfl

/-! ## A run is an advance and an end -/

/-- Takes the tokens, and stays ready for more. -/
def advance (r : Reading) (ts : List Token) : Except TemplateError Reading :=
  ts.foldlM step r

theorem run_append (r : Reading) (ts us : List Token) :
    r.run (ts ++ us) = r.advance ts >>= fun q => q.run us := by
  induction ts generalizing r with
  | nil => rfl
  | cons t ts ih =>
      rw [List.cons_append, run, advance, List.foldlM_cons]
      cases r.step t with
      | error e => rfl
      | ok q => exact ih q

theorem run_eq_advance (r : Reading) (ts : List Token) :
    r.run ts = r.advance ts >>= finish := by
  have h := r.run_append ts []
  rwa [List.append_nil] at h

theorem isUnclosed_of_advance {r : Reading} {ts : List Token}
    {e : TemplateError} (h : r.advance ts = .error e) :
    e.isUnclosed = false := by
  induction ts generalizing r with
  | nil => cases h
  | cons t ts ih =>
      rw [advance, List.foldlM_cons] at h
      cases ht : r.step t with
      | error e' =>
          rw [ht] at h
          cases h
          exact isUnclosed_of_step ht
      | ok q =>
          rw [ht] at h
          exact ih h

/-! ## The stack is a count -/

theorem length_stack_divide {r q : Reading} (h : r.divide = .ok q) :
    q.stack.length = r.stack.length := by
  rw [divide] at h
  split at h
  · next hstack =>
      cases h
      rw [hstack]
      rfl
  · cases h

theorem length_stack_close {r q : Reading} (h : r.close = .ok q) :
    q.stack.length + 1 = r.stack.length := by
  rw [close] at h
  split at h
  · next hstack =>
      cases h
      rw [hstack]
      rfl
  · cases h

theorem length_stack_step {r q : Reading} {t : Token} (h : r.step t = .ok q) :
    q.stack.length + (if t.closes then 1 else 0)
      = r.stack.length + (if t.opens then 1 else 0) := by
  cases step_cases h with
  | text t | value hpath => rfl
  | branch hd | loop hd =>
      rw [Token.closes, Token.opens, Token.directive?_evaluate hd]
      rfl
  | otherwise hd hq =>
      rw [Token.closes, Token.opens, Token.directive?_evaluate hd]
      exact length_stack_divide hq
  | close hd hq =>
      rw [Token.closes, Token.opens, Token.directive?_evaluate hd]
      exact length_stack_close hq

theorem length_stack_advance {r q : Reading} {ts : List Token}
    (h : r.advance ts = .ok q) :
    q.stack.length + ts.countP Token.closes
      = r.stack.length + ts.countP Token.opens := by
  induction ts generalizing r with
  | nil => cases h; rfl
  | cons t ts ih =>
      rw [advance, List.foldlM_cons] at h
      cases ht : r.step t with
      | error e => rw [ht] at h; cases h
      | ok p =>
          rw [ht] at h
          have hstep := length_stack_step ht
          have hrest := ih h
          rw [List.countP_cons, List.countP_cons]
          omega

theorem finish_eq_error {r : Reading} {e : TemplateError}
    (h : r.finish = .error e) : (∃ d, e = .unclosed d) ∧ 0 < r.stack.length := by
  obtain ⟨nodes, stack⟩ := r
  cases stack <;> cases h
  exact ⟨⟨_, rfl⟩, Nat.succ_pos _⟩

/-! ## A row of ends -/

theorem run_closes {t : Token} (ht : t.closes = true) (r : Reading)
    (ts : List Token) : r.run (t :: ts) = r.close >>= fun q => q.run ts := by
  cases t with
  | text t | escape x => cases ht
  | evaluate raw =>
      rw [run, step, Token.closes_evaluate.1 ht]
      rfl

/-- Closing as many blocks as are open completes a template, with fewer ends a
block is left open, and with more there is an end too many. -/
theorem run_ends (r : Reading) {ends : List Token}
    (h : ∀ t ∈ ends, t.closes = true) :
    (ends.length < r.stack.length → ∃ d, r.run ends = .error (.unclosed d)) ∧
      (ends.length = r.stack.length → ∃ ns, r.run ends = .ok ns) ∧
      (r.stack.length < ends.length →
        r.run ends = .error (.unexpectedDirective Directive.endWord)) := by
  obtain ⟨nodes, stack⟩ := r
  induction ends generalizing nodes stack with
  | nil =>
      cases stack with
      | nil => exact ⟨nofun, fun _ => ⟨nodes, rfl⟩, nofun⟩
      | cons frame below => exact ⟨fun _ => ⟨_, rfl⟩, nofun, nofun⟩
  | cons t ends ih =>
      obtain ⟨ht, hends⟩ := List.forall_mem_cons.1 h
      rw [run_closes ht]
      cases stack with
      | nil => exact ⟨nofun, nofun, fun _ => rfl⟩
      | cons frame below =>
          simp only [List.length_cons, Nat.succ_lt_succ_iff, Nat.succ.injEq]
          exact ih hends _ below

end Reading

namespace Node

open Reading

theorem parse_append_eq_run (ts us : List Token) :
    parse (ts ++ us) = start.advance ts >>= fun q => q.run us := by
  rw [parse_eq_resume, ← run_eq_resume, run_append]

theorem parse_eq_advance (ts : List Token) :
    parse ts = start.advance ts >>= finish := by
  rw [parse_eq_resume, ← run_eq_resume, run_eq_advance]

/-! ## The state behind a beginning

What the machine has come to is read off the answer for the beginning alone. -/

theorem advance_of_error {ts : List Token} {e : TemplateError}
    (h : parse ts = .error e) (hkind : ∀ d, e ≠ .unclosed d) :
    start.advance ts = .error e := by
  rw [parse_eq_advance] at h
  cases hadvance : start.advance ts with
  | error e' =>
      rw [hadvance] at h
      cases h
      rfl
  | ok q =>
      rw [hadvance] at h
      obtain ⟨⟨d, hd⟩, _⟩ := finish_eq_error h
      exact absurd hd (hkind d)

theorem advance_of_unclosed {ts : List Token} {d : Text}
    (h : parse ts = .error (.unclosed d)) :
    ∃ q : Reading, start.advance ts = .ok q ∧ 0 < q.stack.length ∧
      OpenBlocks ts q.stack.length := by
  rw [parse_eq_advance] at h
  cases hadvance : start.advance ts with
  | error e =>
      -- A token would be at fault, and no token is at fault for an open block.
      have hkind := isUnclosed_of_advance hadvance
      rw [hadvance] at h
      cases h
      cases hkind
  | ok q =>
      have hcount := length_stack_advance hadvance
      rw [hadvance] at h
      refine ⟨q, rfl, (finish_eq_error h).2, ?_⟩
      rw [start, List.length_nil] at hcount
      rw [OpenBlocks]
      omega

theorem advance_of_ok {ts : List Token} {ns : List Node}
    (h : parse ts = .ok ns) : start.advance ts = .ok ⟨ns, []⟩ := by
  rw [parse_eq_advance] at h
  cases hadvance : start.advance ts with
  | error e => rw [hadvance] at h; cases h
  | ok q =>
      rw [hadvance] at h
      exact congrArg Except.ok (finish_eq_ok h)

/-! ## What may follow -/

theorem parse_append_of_error {ts : List Token} {e : TemplateError}
    (h : parse ts = .error e) (hkind : ∀ d, e ≠ .unclosed d) (us : List Token) :
    parse (ts ++ us) = .error e := by
  rw [parse_append_eq_run, advance_of_error h hkind]
  rfl

theorem parse_append_of_ok {ts : List Token} {ns : List Node}
    (h : parse ts = .ok ns) (us : List Token) :
    parse (ts ++ us) = Reading.run ⟨ns, []⟩ us := by
  rw [parse_append_eq_run, advance_of_ok h]
  rfl

theorem parse_append_ends_iff {ts : List Token} {d : Text}
    (h : parse ts = .error (.unclosed d)) :
    ∃ k, 0 < k ∧ OpenBlocks ts k ∧
      ∀ ends, (∀ t ∈ ends, t.closes = true) →
        ((∃ ns, parse (ts ++ ends) = .ok ns) ↔ ends.length = k) := by
  obtain ⟨q, hadvance, hpos, hopen⟩ := advance_of_unclosed h
  refine ⟨q.stack.length, hpos, hopen, fun ends hends => ?_⟩
  have hrun : parse (ts ++ ends) = q.run ends := by
    rw [parse_append_eq_run, hadvance]
    rfl
  obtain ⟨hfew, hright, hmany⟩ := q.run_ends hends
  rw [hrun]
  refine ⟨fun ⟨ns, hns⟩ => ?_, hright⟩
  rcases Nat.lt_trichotomy ends.length q.stack.length with hlt | heq | hgt
  · obtain ⟨d, hd⟩ := hfew hlt
    rw [hd] at hns
    cases hns
  · exact heq
  · rw [hmany hgt] at hns
    cases hns

/-- What reading the beginning of a template says about the whole. An error
that is no open block stays, whatever follows. With blocks open, the ends that
make a template of it are as many as there are open blocks. Behind a complete
template any row of ends is one too many. -/
theorem parse_of_beginning (ts : List Token) :
    (∀ e, parse ts = .error e → (∀ d, e ≠ .unclosed d) →
        ∀ us, parse (ts ++ us) = .error e) ∧
      (∀ d, parse ts = .error (.unclosed d) →
        ∃ k, 0 < k ∧ OpenBlocks ts k ∧
          ∀ ends, (∀ t ∈ ends, t.closes = true) →
            ((∃ ns, parse (ts ++ ends) = .ok ns) ↔ ends.length = k)) ∧
      (∀ ns, parse ts = .ok ns →
        ∀ ends, ends ≠ [] → (∀ t ∈ ends, t.closes = true) →
          parse (ts ++ ends)
            = .error (.unexpectedDirective Directive.endWord)) := by
  refine ⟨fun e he hkind => parse_append_of_error he hkind,
    fun d hd => parse_append_ends_iff hd, fun ns hns ends hne hends => ?_⟩
  have hpos := List.length_pos_iff.2 hne
  rw [parse_append_of_ok hns]
  exact (run_ends ⟨ns, []⟩ hends).2.2 hpos

/-- A branch with its `else`, and a loop in the second part. -/
def nestedBeginning : List Token :=
  [.evaluate "if a".toList, .text "1".toList, .evaluate " else ".toList,
    .evaluate "for x in xs".toList, .escape "x".toList]

theorem parse_of_beginning_nested :
    parse nestedBeginning = .error (.unclosed "for x in xs".toList) ∧
      ∀ n, (∃ ns, parse (nestedBeginning
        ++ List.replicate n (.evaluate Directive.endWord)) = .ok ns) ↔ n = 2 := by
  have hunclosed :
      parse nestedBeginning = .error (.unclosed "for x in xs".toList) := rfl
  obtain ⟨k, _, hopen, hends⟩ := (parse_of_beginning _).2.1 _ hunclosed
  obtain rfl : 2 = k := by
    have hopens : nestedBeginning.countP Token.opens = 2 := rfl
    have hcloses : nestedBeginning.countP Token.closes = 0 := rfl
    rw [OpenBlocks, hopens, hcloses, Nat.zero_add] at hopen
    exact hopen
  refine ⟨hunclosed, fun n => ?_⟩
  have hclose : (Token.evaluate Directive.endWord).closes = true := rfl
  rw [hends _ fun t ht => List.eq_of_mem_replicate ht ▸ hclose,
    List.length_replicate]

end Node

end Explainer.Template
