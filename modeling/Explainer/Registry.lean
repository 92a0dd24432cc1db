import Explainer.Event
import Explainer.Json.Basic

/-!
# The registry of message templates

A message template says how to explain one type of error. The registry holds at most one template
for each type. What happens when a second one comes is its policy; either way the template that
does not stay is handed back, so that none is lost without notice.
-/

namespace Explainer

/-- How to explain one type of error. -/
structure MessageTemplate where
  /-- The type of error. -/
  type : Text
  /-- The text of the template. -/
  body : Text
  /-- The template set that it comes from, if it comes from one. -/
  origin : Option Text
deriving DecidableEq, Repr

/-- What happens to a template whose type has one already. -/
inductive DuplicatePolicy where
  /-- It takes the place of the earlier one. -/
  | lastWins
  /-- It is refused. -/
  | reject
deriving DecidableEq, Repr

/-- What became of an inserted template. -/
inductive Outcome where
  | added
  /-- It stays, and the given template had to go. -/
  | replaced (previous : MessageTemplate)
  /-- It was refused, and is given back. -/
  | rejected (template : MessageTemplate)
deriving DecidableEq, Repr

/-- How many templates of a batch met which outcome. -/
structure MergeStats where
  added : Nat
  replaced : Nat
  rejected : Nat
deriving DecidableEq, Repr

namespace MergeStats

def zero : MergeStats := ⟨0, 0, 0⟩

/-- The counts of two batches together. -/
def add (a b : MergeStats) : MergeStats :=
  ⟨a.added + b.added, a.replaced + b.replaced, a.rejected + b.rejected⟩

instance : Add MergeStats := ⟨add⟩

/-- The counts of a single template. -/
def ofOutcome : Outcome → MergeStats
  | .added => ⟨1, 0, 0⟩
  | .replaced _ => ⟨0, 1, 0⟩
  | .rejected _ => ⟨0, 0, 1⟩

/-- The number of templates counted. -/
def total (s : MergeStats) : Nat := s.added + s.replaced + s.rejected

@[simp] theorem added_add (a b : MergeStats) : (a + b).added = a.added + b.added := rfl

@[simp] theorem replaced_add (a b : MergeStats) : (a + b).replaced = a.replaced + b.replaced := rfl

@[simp] theorem rejected_add (a b : MergeStats) : (a + b).rejected = a.rejected + b.rejected := rfl

@[simp] theorem zero_add (s : MergeStats) : zero + s = s := by
  show add zero s = s
  simp [add, zero]

@[simp] theorem add_zero (s : MergeStats) : s + zero = s := rfl

theorem add_assoc (a b c : MergeStats) : a + b + c = a + (b + c) := by
  show add (add a b) c = add a (add b c)
  simp [add, Nat.add_assoc]

end MergeStats

/-- The templates of a program, by the type of error they explain. -/
structure Registry where
  policy : DuplicatePolicy
  templates : Members MessageTemplate

namespace Registry

/-- The registry without templates. -/
def empty (policy : DuplicatePolicy) : Registry := ⟨policy, []⟩

def get? (r : Registry) (type : Text) : Option MessageTemplate := Members.find? type r.templates

def contains (r : Registry) (type : Text) : Bool := (r.get? type).isSome

/-- The templates of a type: one or none. -/
def matching (r : Registry) (type : Text) : List MessageTemplate := (r.get? type).toList

def size (r : Registry) : Nat := r.templates.length

/-- Whether there are no templates. -/
def isEmpty (r : Registry) : Bool := r.size == 0

/-- The types that have a template, in order. -/
def types (r : Registry) : List Text := Members.keys r.templates

/-- The registry with one template set for its type. -/
def put (r : Registry) (t : MessageTemplate) : Registry :=
  { r with templates := Members.insert t.type t r.templates }

@[simp] theorem get?_empty (policy : DuplicatePolicy) (type : Text) :
    (empty policy).get? type = none := rfl

theorem get?_put_self (r : Registry) (t : MessageTemplate) : (r.put t).get? t.type = some t :=
  Members.find?_insert_self t.type t r.templates

theorem get?_put_of_ne (r : Registry) (t : MessageTemplate) {type : Text} (h : type ≠ t.type) :
    (r.put t).get? type = r.get? type :=
  Members.find?_insert_of_ne h t r.templates

/-- The registry after one template has been offered to it. -/
def insert (r : Registry) (t : MessageTemplate) : Registry :=
  match r.get? t.type, r.policy with
  | some _, .reject => r
  | _, _ => r.put t

@[simp] theorem policy_insert (r : Registry) (t : MessageTemplate) :
    (r.insert t).policy = r.policy := by
  unfold insert
  split <;> rfl

/-- What becomes of a template that is offered. -/
def outcome (r : Registry) (t : MessageTemplate) : Outcome :=
  match r.get? t.type, r.policy with
  | none, _ => .added
  | some previous, .lastWins => .replaced previous
  | some _, .reject => .rejected t

/-- How reports name the origin of a template. -/
def originName (t : MessageTemplate) : Text := t.origin.getD "<inline>".toList

/-- What the offer of a template reports: a duplicate, if it is one. -/
def insertEvents (r : Registry) (t : MessageTemplate) : List Event :=
  match r.get? t.type, r.policy with
  | none, _ => []
  | some previous, .lastWins =>
    [.duplicateReplaced t.type (originName previous) (originName t)]
  | some kept, .reject => [.duplicateRejected t.type (originName kept) (originName t)]

def extend (r : Registry) (batch : List MessageTemplate) : Registry := batch.foldl insert r

@[simp] theorem extend_nil (r : Registry) : r.extend [] = r := rfl

@[simp] theorem extend_cons (r : Registry) (t : MessageTemplate) (batch : List MessageTemplate) :
    r.extend (t :: batch) = (r.insert t).extend batch := rfl

theorem extend_append (r : Registry) (a b : List MessageTemplate) :
    r.extend (a ++ b) = (r.extend a).extend b :=
  List.foldl_append

/-- What becomes of the templates of a batch, one by one. -/
def outcomes (r : Registry) : List MessageTemplate → List Outcome
  | [] => []
  | t :: rest => r.outcome t :: outcomes (r.insert t) rest

@[simp] theorem length_outcomes (r : Registry) (batch : List MessageTemplate) :
    (r.outcomes batch).length = batch.length := by
  induction batch generalizing r with
  | nil => rfl
  | cons t rest ih => simp [outcomes, ih]

def extendStats (r : Registry) (batch : List MessageTemplate) : MergeStats :=
  (r.outcomes batch).foldl (fun s o => s + MergeStats.ofOutcome o) .zero

/-- What a batch reports. -/
def extendEvents (r : Registry) : List MessageTemplate → List Event
  | [] => []
  | t :: rest => r.insertEvents t ++ extendEvents (r.insert t) rest

end Registry

/-- Where a renderer looks for templates. -/
inductive TemplateSource where
  | registry (r : Registry)
  /-- A list, of which the first template of a type counts. -/
  | list (templates : List MessageTemplate)

def TemplateSource.lookup? (s : TemplateSource) (type : Text) : Option MessageTemplate :=
  match s with
  | registry r => r.get? type
  | list ts => ts.find? (·.type = type)

end Explainer
