import Explainer.Markup.Node

/-!
# Markup that has been read

A reader makes a tree of a markup text. It may fail to: its grammar cannot be used, or it gives
up. All that is asked of a reader is that the fragment it makes of a text holds that text, so that
the ranges of the tree are ranges of the text.
-/

namespace Explainer.Markup

/-- A markup text that has been read. -/
structure Fragment where
  source : Text
  root : Node
  /-- Whether the markup is malformed. -/
  hasErrors : Bool

/-- Why a markup text could not be read. -/
inductive MarkupError where
  /-- The grammar cannot be used. -/
  | language (reason : Text)
  /-- There is no tree of the text. -/
  | parse
deriving DecidableEq, Repr

def MarkupError.message : MarkupError → String
  | language reason => "tree-sitter language error: " ++ String.ofList reason
  | parse => "tree-sitter returned no parse tree"

structure Reader where
  read : Text → Except MarkupError Fragment
  source_eq : ∀ {text : Text} {f : Fragment}, read text = .ok f → f.source = text

/-- The reader of a grammar, which may be refused for a reason, and of a parser, which makes a tree
of a text and says whether the markup is malformed. -/
def Reader.ofParser (refusal : Option Text) (tree? : Text → Option (Node × Bool)) : Reader where
  read text :=
    match refusal, tree? text with
    | some reason, _ => .error (.language reason)
    | none, none => .error .parse
    | none, some (root, hasErrors) => .ok ⟨text, root, hasErrors⟩
  source_eq := by
    intro text f h
    split at h <;> cases h
    rfl

end Explainer.Markup
