import Explainer.Event

/-!
# Tasks that all settle

A group of tasks is started together, and the answer has one entry for each of them, in the order
of the tasks, whatever the order in which they end. A task that ends reports once. Those that
could not be started are lost from the beginning; those that fail report that they are lost; and
those that have not reported when the deadline passes are timed out.

What the group receives while it waits is a list of signals. When the list is at an end, no task
is left that could report.
-/

namespace Explainer.Load

/-- How a task ended, as far as the group knows. -/
inductive Settled (α : Type) where
  | finished (value : α)
  | timedOut
  /-- It could not be started, or failed. -/
  | lost
deriving DecidableEq, Repr

namespace Settled

def value? {α : Type} : Settled α → Option α
  | finished v => some v
  | _ => none

def isFinished {α : Type} (s : Settled α) : Bool := s.value?.isSome

end Settled

/-- What a waiting group receives. -/
inductive Signal (α : Type) where
  /-- The task with the given number has ended. -/
  | report (index : Nat) (outcome : Settled α)
  /-- The deadline has passed. -/
  | deadline
deriving DecidableEq, Repr

/-- What the group knows of each task: nothing, or how it ended. -/
abbrev Slots (α : Type) := List (Option (Settled α))

namespace Slots

/-- When the tasks have been started: those that could not be are lost. `started` says for each
task whether it could. -/
def start {α : Type} (started : List Bool) : Slots α :=
  started.map fun ok => if ok then none else some .lost

/-- The number of tasks that have not settled. -/
def pending {α : Type} (slots : Slots α) : Nat := slots.countP (·.isNone)

@[simp] theorem length_start {α : Type} (started : List Bool) :
    (start (α := α) started).length = started.length :=
  List.length_map _

end Slots

/-- Receives signals until every task has settled, the deadline passes or no task is left.
`pending` counts the tasks that have not settled. The second answer says whether the deadline
passed. -/
def receive {α : Type} (slots : Slots α) (pending : Nat) :
    List (Signal α) → Slots α × Bool
  | [] => (slots, false)
  | signal :: rest =>
    if pending = 0 then (slots, false)
    else match signal with
      | .deadline => (slots, true)
      | .report index outcome => receive (slots.set index (some outcome)) (pending - 1) rest

/-- Fills the slots of the tasks that have not settled. -/
def settleRest {α : Type} (slots : Slots α) (timedOut : Bool) : List (Settled α) :=
  slots.map fun slot => slot.getD (if timedOut then .timedOut else .lost)

@[simp] theorem length_receive {α : Type} (slots : Slots α) (pending : Nat)
    (signals : List (Signal α)) : (receive slots pending signals).1.length = slots.length := by
  induction signals generalizing slots pending with
  | nil => rfl
  | cons signal rest ih =>
    unfold receive
    split
    · rfl
    · cases signal with
      | deadline => rfl
      | report index outcome => simp [ih]

/-- How each task of a group ended. `started` says for each task whether it could be started; those
that could are waited for. -/
def join {α : Type} (started : List Bool) (signals : List (Signal α)) : List (Settled α) :=
  let pending := started.length - started.count false
  let (slots, timedOut) := receive (.start started) pending signals
  settleRest slots timedOut

@[simp] theorem length_join {α : Type} (started : List Bool) (signals : List (Signal α)) :
    (join started signals).length = started.length := by
  simp [join, settleRest]

/-- Whether a task can have the given label: labels that hold a null character end the whole
group. -/
def isLabel (label : Text) : Bool := !label.contains '\x00'

/-- A task as the group sees it when it starts it: its label, and the reason for which it could not
be started, if it could not. -/
structure Start where
  label : Text
  refusal : Option Text
deriving DecidableEq, Repr

namespace Start

/-- What the start of a task reports. -/
def event? (s : Start) : Option Event := s.refusal.map (.taskNotStarted s.label)

end Start

/-- How each task of a labelled group ended; `none` if a label ends the group before it begins to
wait. -/
def joinLabelled? {α : Type} (starts : List Start) (signals : List (Signal α)) :
    Option (List (Settled α)) :=
  if starts.all fun s => isLabel s.label then
    some (join (starts.map (·.refusal.isNone)) signals)
  else none

/-- What becomes of a task. -/
inductive Fate (α : Type) where
  /-- It cannot be started. -/
  | refused (reason : Text)
  /-- It ends without a value. -/
  | fails
  | returns (value : α)
  /-- It never ends. -/
  | hangs
deriving DecidableEq, Repr

namespace Fate

variable {α : Type}

/-- Why the task cannot be started. -/
def refusal? : Fate α → Option Text
  | refused reason => some reason
  | _ => none

def isStarted (f : Fate α) : Bool := f.refusal?.isNone

def isHanging : Fate α → Bool
  | hangs => true
  | _ => false

/-- What the task reports when it ends. -/
def report? : Fate α → Option (Settled α)
  | fails => some .lost
  | returns v => some (.finished v)
  | refused _ | hangs => none

end Fate

/-- A task's fate, and the number of milliseconds until it ends if it does. -/
structure Course (α : Type) where
  after : Nat
  fate : Fate α
deriving DecidableEq, Repr

/-- A labelled task at its start. -/
def Start.of {α : Type} (label : Text) (f : Fate α) : Start := ⟨label, f.refusal?⟩

/-- The reports of tasks that take the given courses, as far as they come in time: in the order of
time, those of the same time in the order of the tasks. -/
def arrivals {α : Type} (timeout : Option Nat) (courses : List (Course α)) :
    List (Nat × Settled α) :=
  let timed := courses.zipIdx.filterMap fun (course, index) =>
    course.fate.report?.map fun outcome => (course.after, index, outcome)
  let inTime := timed.filter fun (after, _) => timeout.all (after ≤ ·)
  (inTime.mergeSort fun a b => a.1 ≤ b.1).map (·.2)

/-- The signals of a group whose tasks take the given courses: the reports that come in time, and
then the deadline if there is one. -/
def signalsOf {α : Type} (timeout : Option Nat) (courses : List (Course α)) : List (Signal α) :=
  (arrivals timeout courses).map (fun (index, outcome) => .report index outcome)
    ++ (if timeout.isSome then [.deadline] else [])

/-- Whether the wait for tasks that take the given courses comes to an end. Without a deadline a
task that hangs keeps the group waiting for ever. -/
def waitEnds {α : Type} (timeout : Option Nat) (courses : List (Course α)) : Bool :=
  timeout.isSome || !courses.any (·.fate.isHanging)

/-- How each task of a labelled group ended if the tasks take the given courses; `none` if the
wait does not end, or if a label ends the group before it. -/
def joinTimed? {α : Type} (timeout : Option Nat) (tasks : List (Text × Course α)) :
    Option (List (Settled α)) :=
  let courses := tasks.map (·.2)
  if waitEnds timeout courses then
    joinLabelled? (tasks.map fun (label, c) => .of label c.fate) (signalsOf timeout courses)
  else none

end Explainer.Load
