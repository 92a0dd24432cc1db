import Explainer.Template.Tree

/-!
# Trees as template text

The standard spelling of a tree: interpolations in double braces, directives in percent brackets
with single blanks, and an `else` only where there is an alternative to write.
-/

namespace Explainer.Template

def escapeTag (e : Text) : Text := ['{', '{'] ++ e ++ ['}', '}']

def evaluateTag (e : Text) : Text := ['[', '%'] ++ e ++ ['%', ']']

/-- A directive tag of the given words, with blanks around and between them. -/
def wordsTag (ws : List Text) : Text :=
  evaluateTag (' ' :: ws.flatMap fun w => w ++ [' '])

/-- A token in the standard spelling. -/
def Token.print : Token → Text
  | .text t => t
  | .escape e => escapeTag e
  | .evaluate e => evaluateTag e

namespace Node

open Directive

mutual

/-- A node in the standard spelling. -/
def print : Node → Text
  | .text t => t
  | .value p => escapeTag p
  | .branch negate p thenPart elsePart =>
    wordsTag [if negate then unlessWord else ifWord, p] ++ printAll thenPart
      ++ (if elsePart.isEmpty then [] else wordsTag [elseWord] ++ printAll elsePart)
      ++ wordsTag [endWord]
  | .loop binder p body =>
    wordsTag [forWord, binder, inWord, p] ++ printAll body ++ wordsTag [endWord]

/-- A list of nodes in the standard spelling. -/
def printAll : List Node → Text
  | [] => []
  | n :: rest => print n ++ printAll rest

end

end Node

end Explainer.Template
