import Explainer.Text.Basic

/-!
# Events

What the library reports beside its results. An event is its cause with the facts that belong to
it; level, wording and the list of named facts are read off the cause.
-/

namespace Explainer

/-- How urgent an event is. -/
inductive Level where
  | debug
  | warn
deriving DecidableEq, Repr

/-- The value of a named fact: a text or a count. -/
inductive Fact where
  | text (value : Text)
  | count (value : Nat)
deriving DecidableEq, Repr

/-- Something worth reporting. -/
inductive Event where
  /-- A record member that would have changed the error kind was not set. -/
  | typeOverwriteIgnored (kind : Text)
  /-- A template names a field that the record does not have. -/
  | fieldMissing (path : Text)
  /-- A template took the place of an earlier one of its type. -/
  | duplicateReplaced (type previous replacement : Text)
  /-- A template was refused because its type has one. -/
  | duplicateRejected (type kept rejected : Text)
  /-- A task could not be started. -/
  | taskNotStarted (label reason : Text)
  /-- The fetch of a template set ended without an answer. -/
  | fetchAborted (set path : Text)
  /-- The fetch of a template set failed. -/
  | fetchFailed (set path reason : Text)
  /-- The markup of a template set could not be read. -/
  | extractFailed (set path reason : Text)
  /-- The templates of a set were merged. -/
  | setMerged (set : Text) (found added replaced rejected : Nat)
  /-- A template set is malformed markup. -/
  | setMalformed (set : Text)
  /-- A marked element names no error type. -/
  | elementWithoutType (set marker : Text)
  /-- Rendered markup is malformed. -/
  | scopeMalformed (length : Nat)
deriving DecidableEq, Repr

namespace Event

def level : Event → Level
  | typeOverwriteIgnored .. | fieldMissing .. | setMerged .. | setMalformed .. => .debug
  | _ => .warn

def message : Event → String
  | typeOverwriteIgnored .. => "ignoring attempt to overwrite record type"
  | fieldMissing .. => "template field missing; rendering empty"
  | duplicateReplaced .. => "duplicate error template replaced"
  | duplicateRejected .. => "duplicate error template rejected"
  | taskNotStarted .. => "failed to start task"
  | fetchAborted .. => "template fetch aborted"
  | fetchFailed .. => "template set failed to load"
  | extractFailed .. => "template set failed to parse"
  | setMerged .. => "merged template set"
  | setMalformed .. => "template set contains malformed markup"
  | elementWithoutType .. => "template element has no error-type class; skipped"
  | scopeMalformed .. => "highlight scope contains malformed markup"

def facts : Event → List (String × Fact)
  | typeOverwriteIgnored kind => [("error_type", .text kind)]
  | fieldMissing path => [("path", .text path)]
  | duplicateReplaced type previous replacement =>
    [("type_id", .text type), ("previous", .text previous), ("replacement", .text replacement)]
  | duplicateRejected type kept rejected =>
    [("type_id", .text type), ("kept", .text kept), ("rejected", .text rejected)]
  | taskNotStarted label reason => [("task", .text label), ("error", .text reason)]
  | fetchAborted set path => [("set", .text set), ("path", .text path)]
  | fetchFailed set path reason =>
    [("set", .text set), ("path", .text path), ("error", .text reason)]
  | extractFailed set path reason =>
    [("set", .text set), ("path", .text path), ("error", .text reason)]
  | setMerged set found added replaced rejected =>
    [("set", .text set), ("found", .count found), ("added", .count added),
      ("replaced", .count replaced), ("rejected", .count rejected)]
  | setMalformed set => [("set", .text set)]
  | elementWithoutType set marker => [("set", .text set), ("marker", .text marker)]
  | scopeMalformed length => [("len", .count length)]

end Event

end Explainer
