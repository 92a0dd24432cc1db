import Explainer.Template.Tree

/-!
# The tree reader is a machine with one stack

The reader of a template descends into a block and comes back with a reason,
so what it does at an `else` or an `end` depends on calls that are still
open. This file gives the same language by a machine without calls: it takes
the tokens one by one from left to right, and the blocks that are open are a
stack of frames, the innermost on top.

The machine is easier to believe than the reader. An `else` is legal on a
branch that has had none, and nowhere else; an `end` closes the top block,
and there has to be one; and at the end of the tokens nothing may be open,
or the innermost block is reported.

The two agree on every list of tokens, in the tree as well as in the error.
The proof relates the machine in any state to a call of the reader on the
same tokens: `resume` says how the machine continues from what the call left
behind, and `run_eq_resume` says that it does. The induction is on the budget
of the reader, and a budget of two for each token is enough, since a block
that opens is charged twice for its one directive.
-/

namespace Explainer.Template

/-! ## The machine -/

/-- A block that is open: a branch before or after its `else`, or a loop. What
it keeps is what its directive asks for, and the part that is complete. -/
inductive OpenBlock where
  | branchThen (negate : Bool) (path : Text)
  | branchElse (negate : Bool) (path : Text) (thenPart : List Node)
  | loopBody (binder path : Text)

/-- The node of a block whose last part consists of the given nodes. -/
def OpenBlock.node : OpenBlock → List Node → Node
  | .branchThen negate path, nodes => .branch negate path nodes []
  | .branchElse negate path thenPart, nodes => .branch negate path thenPart nodes
  | .loopBody binder path, nodes => .loop binder path nodes

/-- An open block with the text of its directive and with the nodes that
stand before it in the surrounding list. -/
structure Frame where
  directive : Text
  block : OpenBlock
  before : List Node

/-- The state of the machine: the nodes of the innermost list so far, and the
open blocks around it, innermost first. -/
structure Reading where
  nodes : List Node
  stack : List Frame

namespace Reading

def start : Reading := ⟨[], []⟩

def append (r : Reading) (ns : List Node) : Reading :=
  { r with nodes := r.nodes ++ ns }

def enter (r : Reading) (directive : Text) (block : OpenBlock) : Reading :=
  ⟨[], ⟨directive, block, r.nodes⟩ :: r.stack⟩

/-- An `else`: the second part of the innermost block begins. -/
def divide (r : Reading) : Except TemplateError Reading :=
  match r.stack with
  | ⟨directive, .branchThen negate path, before⟩ :: below =>
      .ok ⟨[], ⟨directive, .branchElse negate path r.nodes, before⟩ :: below⟩
  | _ => .error (.unexpectedDirective Directive.elseWord)

/-- An `end`: the innermost block is complete. -/
def close (r : Reading) : Except TemplateError Reading :=
  match r.stack with
  | frame :: below => .ok ⟨frame.before ++ [frame.block.node r.nodes], below⟩
  | [] => .error (.unexpectedDirective Directive.endWord)

def step (r : Reading) : Token → Except TemplateError Reading
  | .text t => .ok (r.append [.text t])
  | .escape e => do
      let path ← readPath e
      .ok (r.append [.value path])
  | .evaluate raw => do
      match ← Directive.parse raw with
      | .branch negate path => .ok (r.enter raw (.branchThen negate path))
      | .loop binder path => .ok (r.enter raw (.loopBody binder path))
      | .otherwise => r.divide
      | .close => r.close

/-- The tree, once there are no more tokens. -/
def finish (r : Reading) : Except TemplateError (List Node) :=
  match r.stack with
  | [] => .ok r.nodes
  | frame :: _ => .error (.unclosed frame.directive.trim)

/-- Takes tokens one by one; the first error is the error of all. -/
def run (r : Reading) : List Token → Except TemplateError (List Node)
  | [] => r.finish
  | t :: ts => do (← r.step t).run ts

/-- What a token does to the machine, rule by rule. -/
inductive Step (r : Reading) : Token → Reading → Prop
  | text (t : Text) : Step r (.text t) (r.append [.text t])
  | value {e path : Text} (hpath : readPath e = .ok path) :
      Step r (.escape e) (r.append [.value path])
  | branch {raw : Text} {negate : Bool} {path : Text}
      (hd : Directive.parse raw = .ok (.branch negate path)) :
      Step r (.evaluate raw) (r.enter raw (.branchThen negate path))
  | loop {raw binder path : Text}
      (hd : Directive.parse raw = .ok (.loop binder path)) :
      Step r (.evaluate raw) (r.enter raw (.loopBody binder path))
  | otherwise {raw : Text} {q : Reading}
      (hd : Directive.parse raw = .ok .otherwise) (hq : r.divide = .ok q) :
      Step r (.evaluate raw) q
  | close {raw : Text} {q : Reading}
      (hd : Directive.parse raw = .ok .close) (hq : r.close = .ok q) :
      Step r (.evaluate raw) q

theorem step_cases {r q : Reading} {t : Token} (h : r.step t = .ok q) :
    Step r t q := by
  cases t with
  | text t => cases h; exact .text t
  | escape e =>
      rw [step] at h
      cases hpath : readPath e with
      | error _ => rw [hpath] at h; cases h
      | ok path => rw [hpath] at h; cases h; exact .value hpath
  | evaluate raw =>
      rw [step] at h
      cases hd : Directive.parse raw with
      | error _ => rw [hd] at h; cases h
      | ok d =>
          rw [hd] at h
          cases d with
          | branch negate path => cases h; exact .branch hd
          | loop binder path => cases h; exact .loop hd
          | otherwise => exact .otherwise hd h
          | close => exact .close hd h

theorem finish_eq_ok {r : Reading} {ns : List Node} (h : r.finish = .ok ns) :
    r = ⟨ns, []⟩ := by
  obtain ⟨nodes, stack⟩ := r
  cases stack <;> cases h
  rfl

@[simp] theorem append_nil (r : Reading) : r.append [] = r := by
  rw [append, List.append_nil]

@[simp] theorem append_append (r : Reading) (ms ns : List Node) :
    (r.append ms).append ns = r.append (ms ++ ns) := by
  rw [append, append, append, List.append_assoc]

/-! ## What a call of the reader leaves for the machine -/

/-- How the machine goes on after the nodes of one list, given the reason for
which they stopped and the tokens behind them. -/
def resume (r : Reading) : Block → Except TemplateError (List Node)
  | (ns, .ended, _) => (r.append ns).finish
  | (ns, .otherwise, rest) => do (← (r.append ns).divide).run rest
  | (ns, .close, rest) => do (← (r.append ns).close).run rest

theorem resume_consBlock (r : Reading) (n : Node) (b : Block) :
    r.resume (Node.consBlock n b) = (r.append [n]).resume b := by
  obtain ⟨ns, stop, rest⟩ := b
  cases stop <;> simp [resume, Node.consBlock]

theorem resume_map_consBlock (r : Reading) (n : Node)
    (b : Except TemplateError Block) :
    b.map (Node.consBlock n) >>= r.resume = b >>= (r.append [n]).resume := by
  cases b with
  | error e => rfl
  | ok b => exact resume_consBlock r n b

end Reading

namespace Node

open Reading

/-! ## Reading makes no tokens

A call leaves a list no longer than it was given. That is what makes the
budget of the machine's next step enough as well. -/

theorem readBranch_length_le {n : Nat}
    (hblock : ∀ {ts : List Token} {b : Block},
      readBlock n ts = .ok b → b.2.2.length ≤ ts.length)
    {raw : Text} {ts rest : List Token} {a b : List Node}
    (h : readBranch (n + 1) raw ts = .ok (a, b, rest)) :
    rest.length ≤ ts.length := by
  rw [readBranch.eq_def] at h
  simp only [] at h
  cases hthen : readBlock n ts with
  | error e => rw [hthen] at h; cases h
  | ok first =>
      obtain ⟨ns, stop, mid⟩ := first
      have hmid := hblock hthen
      rw [hthen] at h
      cases stop with
      | ended => cases h
      | close => cases h; exact hmid
      | otherwise =>
          simp only [bind, Except.bind] at h
          cases helse : readBlock n mid with
          | error e => rw [helse] at h; cases h
          | ok second =>
              obtain ⟨ns', stop, last⟩ := second
              have hlast := hblock helse
              rw [helse] at h
              cases stop with
              | ended | otherwise => cases h
              | close => cases h; exact Nat.le_trans hlast hmid

theorem readLoop_length_le {n : Nat}
    (hblock : ∀ {ts : List Token} {b : Block},
      readBlock n ts = .ok b → b.2.2.length ≤ ts.length)
    {raw : Text} {ts rest : List Token} {body : List Node}
    (h : readLoop (n + 1) raw ts = .ok (body, rest)) :
    rest.length ≤ ts.length := by
  rw [readLoop.eq_def] at h
  simp only [] at h
  cases hbody : readBlock n ts with
  | error e => rw [hbody] at h; cases h
  | ok first =>
      obtain ⟨ns, stop, last⟩ := first
      have hlast := hblock hbody
      rw [hbody] at h
      cases stop with
      | ended | otherwise => cases h
      | close => cases h; exact hlast

theorem readBlock_length_le (n : Nat) :
    ∀ {ts : List Token} {b : Block},
      readBlock n ts = .ok b → b.2.2.length ≤ ts.length := by
  induction n using Nat.strongRecOn with
  | ind n ih =>
      intro ts b h
      have hcons : ∀ {m : Nat} {us : List Token} {node : Node}, m < n →
          us.length ≤ ts.length →
          (readBlock m us).map (consBlock node) = .ok b →
          b.2.2.length ≤ ts.length := by
        intro m us node hm hus hmap
        cases hread : readBlock m us with
        | error e => rw [hread] at hmap; cases hmap
        | ok c =>
            rw [hread] at hmap
            cases hmap
            have hc := ih m hm hread
            exact Nat.le_trans hc hus
      rw [readBlock.eq_def] at h
      match n, ts with
      | 0, ts | n + 1, [] => cases h; exact Nat.le_refl _
      | n + 1, .text t :: ts =>
          exact hcons (Nat.lt_succ_self n) (Nat.le_succ _) h
      | n + 1, .escape e :: ts =>
          simp only [] at h
          cases hp : readPath e with
          | error e => rw [hp] at h; cases h
          | ok path =>
              rw [hp] at h
              exact hcons (Nat.lt_succ_self n) (Nat.le_succ _) h
      | n + 1, .evaluate raw :: ts =>
          simp only [] at h
          cases hd : Directive.parse raw with
          | error e => rw [hd] at h; cases h
          | ok d =>
              rw [hd] at h
              cases d with
              | otherwise | close => cases h; exact Nat.le_succ _
              | branch negate path =>
                  simp only [bind, Except.bind] at h
                  cases hb : readBranch n raw ts with
                  | error e => rw [hb] at h; cases h
                  | ok parts =>
                      obtain ⟨a, b, rest⟩ := parts
                      rw [hb] at h
                      refine hcons (Nat.lt_succ_self n) ?_ h
                      cases n with
                      | zero => rw [readBranch.eq_def] at hb; cases hb
                      | succ k =>
                          have hk := readBranch_length_le (ih k (by omega)) hb
                          exact Nat.le_succ_of_le hk
              | loop binder path =>
                  simp only [bind, Except.bind] at h
                  cases hl : readLoop n raw ts with
                  | error e => rw [hl] at h; cases h
                  | ok parts =>
                      obtain ⟨body, rest⟩ := parts
                      rw [hl] at h
                      refine hcons (Nat.lt_succ_self n) ?_ h
                      cases n with
                      | zero => rw [readLoop.eq_def] at hl; cases hl
                      | succ k =>
                          have hk := readLoop_length_le (ih k (by omega)) hl
                          exact Nat.le_succ_of_le hk

/-! ## The machine and the reader side by side -/

/-- On lists of at most `l` tokens the machine, in whatever state, does what a
call of the reader with budget `n` prepares. -/
def Agree (n l : Nat) : Prop :=
  ∀ (r : Reading) {ts : List Token}, ts.length ≤ l →
    r.run ts = readBlock n ts >>= r.resume

/-- Behind a complete node the two go on in step. -/
theorem Agree.node {n l : Nat} (h : Agree n l) (r : Reading) (node : Node)
    {ts : List Token} (hts : ts.length ≤ l) :
    (r.append [node]).run ts
      = (readBlock n ts).map (consBlock node) >>= r.resume := by
  rw [resume_map_consBlock]
  exact h (r.append [node]) hts

theorem Agree.branch {n l : Nat} (h : Agree n l) (h' : Agree (n + 1) l)
    (r : Reading) (raw : Text) (negate : Bool) (path : Text)
    {ts : List Token} (hts : ts.length ≤ l) :
    (r.enter raw (.branchThen negate path)).run ts
      = (readBranch (n + 1) raw ts >>= fun (a, b, rest) =>
          (readBlock (n + 1) rest).map (consBlock (.branch negate path a b)))
        >>= r.resume := by
  rw [h _ hts]
  simp only [readBranch]
  cases hthen : readBlock n ts with
  | error e => rfl
  | ok first =>
      obtain ⟨a, stop, mid⟩ := first
      have hmid := Nat.le_trans (readBlock_length_le n hthen) hts
      cases stop with
      | ended => rfl
      | close => exact h'.node r (.branch negate path a []) hmid
      | otherwise =>
          show (r.enter raw (.branchElse negate path a)).run mid = _
          rw [h _ hmid]
          simp only [bind, Except.bind]
          cases helse : readBlock n mid with
          | error e => rfl
          | ok second =>
              obtain ⟨b, stop, last⟩ := second
              have hlast := Nat.le_trans (readBlock_length_le n helse) hmid
              cases stop with
              | ended | otherwise => rfl
              | close => exact h'.node r (.branch negate path a b) hlast

theorem Agree.loop {n l : Nat} (h : Agree n l) (h' : Agree (n + 1) l)
    (r : Reading) (raw binder path : Text)
    {ts : List Token} (hts : ts.length ≤ l) :
    (r.enter raw (.loopBody binder path)).run ts
      = (readLoop (n + 1) raw ts >>= fun (body, rest) =>
          (readBlock (n + 1) rest).map (consBlock (.loop binder path body)))
        >>= r.resume := by
  rw [h _ hts]
  simp only [readLoop]
  cases hbody : readBlock n ts with
  | error e => rfl
  | ok first =>
      obtain ⟨body, stop, last⟩ := first
      have hlast := Nat.le_trans (readBlock_length_le n hbody) hts
      cases stop with
      | ended | otherwise => rfl
      | close => exact h'.node r (.loop binder path body) hlast

/-- A budget of two for each token is enough for the two to agree. -/
theorem agree_of_le (n : Nat) : ∀ {l : Nat}, 2 * l ≤ n → Agree n l := by
  induction n using Nat.strongRecOn with
  | ind n ih =>
      intro l hl r ts hts
      cases ts with
      | nil =>
          have hread : readBlock n [] = .ok ([], .ended, []) := by
            cases n <;> rw [readBlock.eq_def]
          rw [hread]
          show r.finish = (r.append []).finish
          rw [append_nil]
      | cons t ts =>
          rw [List.length_cons] at hts
          obtain ⟨l, rfl⟩ : ∃ m, l = m + 1 := ⟨l - 1, by omega⟩
          obtain ⟨k, rfl⟩ : ∃ k, n = k + 2 := ⟨n - 2, by omega⟩
          have hts' : ts.length ≤ l := Nat.le_of_succ_le_succ hts
          have houter : Agree (k + 1) l := ih (k + 1) (by omega) (by omega)
          have hinner : Agree k l := ih k (by omega) (by omega)
          rw [readBlock.eq_def, run]
          cases t with
          | text t => exact houter.node r (.text t) hts'
          | escape e =>
              simp only [step]
              cases readPath e with
              | error e => rfl
              | ok path => exact houter.node r (.value path) hts'
          | evaluate raw =>
              simp only [step]
              cases Directive.parse raw with
              | error e => rfl
              | ok d =>
                  cases d with
                  | branch negate path =>
                      exact hinner.branch houter r raw negate path hts'
                  | loop binder path =>
                      exact hinner.loop houter r raw binder path hts'
                  | otherwise =>
                      show r.divide >>= _ = (r.append []).divide >>= _
                      rw [append_nil]
                  | close =>
                      show r.close >>= _ = (r.append []).close >>= _
                      rw [append_nil]

theorem run_eq_resume (r : Reading) (ts : List Token) :
    r.run ts = readBlock (2 * ts.length + 2) ts >>= r.resume :=
  agree_of_le _ (Nat.le_add_right _ _) r (Nat.le_refl _)

theorem parse_eq_resume (ts : List Token) :
    parse ts = readBlock (2 * ts.length + 2) ts >>= start.resume := by
  unfold parse
  cases readBlock (2 * ts.length + 2) ts with
  | error e => rfl
  | ok b =>
      obtain ⟨ns, stop, rest⟩ := b
      cases stop <;> rfl

/-- The reader of a template and the machine have one answer to every list of
tokens: the same tree, or the error of the first token that is out of place,
or the innermost block that is never closed. -/
theorem parse_eq_run (ts : List Token) : parse ts = start.run ts := by
  rw [parse_eq_resume, run_eq_resume]

end Node

end Explainer.Template
