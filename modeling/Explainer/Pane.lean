import Explainer.Text.Basic

/-!
# The pane

The surface on which messages appear. It keeps its markup when it is hidden.
-/

namespace Explainer

/-- The place where a message is shown. -/
structure Pane where
  markup : Text
  visible : Bool
deriving DecidableEq, Repr

namespace Pane

/-- A pane without a message, hidden. -/
def empty : Pane := ⟨[], false⟩

def mount (p : Pane) (markup : Text) : Pane := { p with markup := markup }

def reveal (p : Pane) : Pane := { p with visible := true }

def hide (p : Pane) : Pane := { p with visible := false }

@[simp] theorem markup_hide (p : Pane) : p.hide.markup = p.markup := rfl

@[simp] theorem markup_reveal (p : Pane) : p.reveal.markup = p.markup := rfl

@[simp] theorem visible_mount (p : Pane) (markup : Text) :
    (p.mount markup).visible = p.visible := rfl

end Pane

end Explainer
