import Explainer.Proofs.FieldPath
import Explainer.Proofs.TreeMachine

/-!
# The fields that a template speaks of

A template uses fields in three ways: it shows one, it asks one for a branch,
and it runs a loop through one. All three can be read off the tags alone,
without knowing how blocks lie in each other, and a tree holds them in the
order of its parts. This file shows that these are the same uses: what
reading makes a tree of, it neither drops nor doubles nor reorders
(`Node.usesAll_parse`). So whatever holds of every tag holds of every tree
that is read, and that paths are dotted identifiers is one such thing.

The machine of the tree reader carries the proof: each of its steps puts the
uses of one token behind those that the open blocks and the nodes so far hold
already.
-/

namespace Explainer.Template

/-- A use of a field in a template. -/
inductive FieldUse where
  /-- It is shown. -/
  | value (path : Text)
  /-- It decides which part of a branch stands. -/
  | condition (path : Text)
  /-- A loop runs through it, with a name for its items. -/
  | source (binder path : Text)
deriving DecidableEq, Repr

namespace FieldUse

def path : FieldUse → Text
  | value p | condition p | source _ p => p

/-- The use can be written in a template. -/
def Spelt : FieldUse → Prop
  | value p | condition p => DottedPath p
  | source binder p => isIdentifier binder = true ∧ DottedPath p

theorem Spelt.dottedPath {u : FieldUse} (h : u.Spelt) : DottedPath u.path := by
  cases u with
  | value | condition => exact h
  | source => exact h.2

end FieldUse

/-! ## The uses in a tree and those in a tag -/

namespace Node

mutual

/-- The uses of fields in a node, in the order of its text. -/
def uses : Node → List FieldUse
  | .text _ => []
  | .value path => [.value path]
  | .branch _ path thenPart elsePart =>
      .condition path :: (usesAll thenPart ++ usesAll elsePart)
  | .loop binder path body => .source binder path :: usesAll body

@[inherit_doc uses]
def usesAll : List Node → List FieldUse
  | [] => []
  | n :: rest => n.uses ++ usesAll rest

end

@[simp] theorem usesAll_append (ms ns : List Node) :
    usesAll (ms ++ ns) = usesAll ms ++ usesAll ns := by
  induction ms with
  | nil => rfl
  | cons m ms ih => rw [List.cons_append, usesAll, ih, usesAll, List.append_assoc]

@[simp] theorem usesAll_singleton (n : Node) : usesAll [n] = n.uses := by
  rw [usesAll, usesAll, List.append_nil]

end Node

/-- The use of a field that is made, if one is. -/
def Directive.uses : Directive → List FieldUse
  | .branch _ path => [.condition path]
  | .loop binder path => [.source binder path]
  | .otherwise | .close => []

@[inherit_doc Directive.uses]
def Token.uses : Token → List FieldUse
  | .text _ => []
  | .escape e =>
      match readPath e with
      | .ok path => [.value path]
      | .error _ => []
  | .evaluate raw =>
      match Directive.parse raw with
      | .ok d => d.uses
      | .error _ => []

/-! ## What a tag uses is spelt as a field -/

theorem dottedPath_of_readPath {e p : Text} (h : readPath e = .ok p) : DottedPath p := by
  unfold readPath at h
  dsimp only at h
  split at h
  · cases h
  · split at h
    · next hpath =>
        cases h
        exact dottedPath_iff.mpr hpath
    · cases h

namespace Directive

theorem dottedPath_of_map {e : Text} {f : Text → Directive} {d : Directive}
    (h : (readPath e).map f = .ok d) : ∃ p, DottedPath p ∧ d = f p := by
  cases he : readPath e with
  | error _ => rw [he] at h; cases h
  | ok p =>
      rw [he] at h
      cases h
      exact ⟨p, dottedPath_of_readPath he, rfl⟩

theorem spelt_of_ofWords {whole : Text} {ws : List Text} {d : Directive}
    (h : ofWords whole ws = .ok d) {u : FieldUse} (hu : u ∈ d.uses) : u.Spelt := by
  unfold ofWords at h
  split at h
  · cases h
  · -- `else` and `end` use nothing
    split at h
    · cases h; cases hu
    · split at h <;> cases h; cases hu
  · split at h
    · obtain ⟨p, hp, rfl⟩ := dottedPath_of_map h
      obtain rfl := List.mem_singleton.mp hu
      exact hp
    · split at h
      · obtain ⟨p, hp, rfl⟩ := dottedPath_of_map h
        obtain rfl := List.mem_singleton.mp hu
        exact hp
      · cases h
  · split at h
    · next hword =>
        simp only [Bool.and_eq_true] at hword
        obtain ⟨p, hp, rfl⟩ := dottedPath_of_map h
        obtain rfl := List.mem_singleton.mp hu
        exact ⟨hword.2, hp⟩
    · cases h
  · cases h

end Directive

theorem Token.spelt_of_mem_uses {t : Token} {u : FieldUse} (h : u ∈ t.uses) :
    u.Spelt := by
  cases t with
  | text t => cases h
  | escape e =>
      rw [Token.uses] at h
      split at h
      · next p hp =>
          obtain rfl := List.mem_singleton.mp h
          exact dottedPath_of_readPath hp
      · cases h
  | evaluate raw =>
      rw [Token.uses] at h
      split at h
      · next d hd => exact Directive.spelt_of_ofWords hd h
      · cases h

/-! ## Reading keeps the uses -/

def OpenBlock.uses : OpenBlock → List FieldUse
  | .branchThen _ path => [.condition path]
  | .branchElse _ path thenPart => .condition path :: Node.usesAll thenPart
  | .loopBody binder path => [.source binder path]

theorem OpenBlock.uses_node (b : OpenBlock) (ns : List Node) :
    (b.node ns).uses = b.uses ++ Node.usesAll ns := by
  cases b <;> simp [OpenBlock.node, OpenBlock.uses, Node.uses, Node.usesAll]

/-- The uses that stand before the nodes of an open block. -/
def Frame.uses (f : Frame) : List FieldUse := Node.usesAll f.before ++ f.block.uses

namespace Reading

/-- The uses that have been read: those of the open blocks, from the outermost
to the innermost, and those of the nodes in it. -/
def uses (r : Reading) : List FieldUse :=
  r.stack.reverse.flatMap Frame.uses ++ Node.usesAll r.nodes

theorem uses_append (r : Reading) (ns : List Node) :
    (r.append ns).uses = r.uses ++ Node.usesAll ns := by
  rw [uses, append, Node.usesAll_append, ← List.append_assoc]
  rfl

theorem uses_enter (r : Reading) (directive : Text) (block : OpenBlock) :
    (r.enter directive block).uses = r.uses ++ block.uses := by
  simp [uses, enter, Frame.uses, Node.usesAll]

theorem uses_divide {r q : Reading} (h : r.divide = .ok q) : q.uses = r.uses := by
  rw [divide] at h
  split at h
  · next directive negate path before below hstack =>
      cases h
      simp [uses, hstack, Frame.uses, OpenBlock.uses, Node.usesAll]
  · cases h

theorem uses_close {r q : Reading} (h : r.close = .ok q) : q.uses = r.uses := by
  rw [close] at h
  split at h
  · next frame below hstack =>
      cases h
      simp [uses, hstack, Frame.uses, OpenBlock.uses_node]
  · cases h

theorem uses_step {r q : Reading} {t : Token} (h : r.step t = .ok q) :
    q.uses = r.uses ++ t.uses := by
  cases step_cases h with
  | text t =>
      rw [uses_append, Node.usesAll_singleton]
      rfl
  | value hpath =>
      rw [uses_append, Node.usesAll_singleton, Token.uses, hpath]
      rfl
  | branch hd | loop hd =>
      rw [Token.uses, hd]
      exact uses_enter r _ _
  | otherwise hd hq =>
      rw [Token.uses, hd, uses_divide hq]
      exact (List.append_nil _).symm
  | close hd hq =>
      rw [Token.uses, hd, uses_close hq]
      exact (List.append_nil _).symm

theorem usesAll_run {r : Reading} {ts : List Token} {ns : List Node}
    (h : r.run ts = .ok ns) : Node.usesAll ns = r.uses ++ ts.flatMap Token.uses := by
  induction ts generalizing r with
  | nil =>
      rw [run] at h
      obtain rfl := finish_eq_ok h
      simp [uses]
  | cons t ts ih =>
      rw [run] at h
      cases hstep : r.step t with
      | error _ => rw [hstep] at h; cases h
      | ok q =>
          rw [hstep] at h
          rw [ih h, uses_step hstep, List.flatMap_cons, List.append_assoc]

end Reading

namespace Node

/-- A tree uses the fields that its tags use, in the same order. -/
theorem usesAll_parse {ts : List Token} {ns : List Node} (h : parse ts = .ok ns) :
    usesAll ns = ts.flatMap Token.uses := by
  rw [parse_eq_resume, ← run_eq_resume] at h
  exact Reading.usesAll_run h

theorem spelt_of_parse {ts : List Token} {ns : List Node} (h : parse ts = .ok ns)
    {u : FieldUse} (hu : u ∈ usesAll ns) : u.Spelt := by
  rw [usesAll_parse h, List.mem_flatMap] at hu
  obtain ⟨t, _, hu⟩ := hu
  exact Token.spelt_of_mem_uses hu

theorem dottedPath_of_parse {ts : List Token} {ns : List Node} (h : parse ts = .ok ns) :
    ∀ u ∈ usesAll ns, DottedPath u.path :=
  fun _ hu => (spelt_of_parse h hu).dottedPath

end Node

end Explainer.Template
