import Explainer.Template.Path
import Explainer.Template.Token

/-!
# The tree of a template

Directives open, divide and close blocks; the tree puts every token where it belongs. The reader
descends into a block when its directive opens one and comes back with the reason for which the
block stopped, so that the block that is open decides what `else` and `end` mean.
-/

namespace Explainer.Template

/-- A part of a template. -/
inductive Node where
  /-- Text that stands as it is. -/
  | text (content : Text)
  /-- A field, interpolated. -/
  | value (path : Text)
  /-- One of two parts, by whether a field holds; with `negate` the other way round. -/
  | branch (negate : Bool) (path : Text) (thenPart elsePart : List Node)
  /-- A part for each item of a list. -/
  | loop (binder path : Text) (body : List Node)
deriving Repr

inductive Directive where
  | branch (negate : Bool) (path : Text)
  | loop (binder path : Text)
  | otherwise
  | close
deriving DecidableEq, Repr

namespace Directive

/-- The words of the directive language. -/
def ifWord : Text := "if".toList
@[inherit_doc ifWord] def unlessWord : Text := "unless".toList
@[inherit_doc ifWord] def forWord : Text := "for".toList
@[inherit_doc ifWord] def inWord : Text := "in".toList
@[inherit_doc ifWord] def elseWord : Text := "else".toList
@[inherit_doc ifWord] def endWord : Text := "end".toList

/-- The directive that a list of words is; `whole` is what an unknown one is reported as. -/
def ofWords (whole : Text) : List Text → Except TemplateError Directive
  | [] => .error .emptyExpression
  | [w] =>
    if w = elseWord then .ok .otherwise
    else if w = endWord then .ok .close
    else .error (.unknownDirective whole)
  | [w, path] =>
    if w = ifWord then (readPath path).map (.branch false)
    else if w = unlessWord then (readPath path).map (.branch true)
    else .error (.unknownDirective whole)
  | [w, binder, i, path] =>
    if w = forWord && i = inWord && isIdentifier binder then (readPath path).map (.loop binder)
    else .error (.unknownDirective whole)
  | _ => .error (.unknownDirective whole)

def parse (raw : Text) : Except TemplateError Directive := ofWords raw.trim raw.words

end Directive

/-- Why a block stopped. -/
inductive Stop where
  | otherwise
  | close
  | ended
deriving DecidableEq, Repr

/-- What reading a block leaves: its nodes, why it stopped, and the tokens after it. -/
abbrev Block := List Node × Stop × List Token

namespace Node

/-- Puts a node before those of a block. -/
def consBlock (n : Node) (b : Block) : Block := (n :: b.1, b.2)

/-- The error of an `else` that divides nothing. -/
def strayElse : TemplateError := .unexpectedDirective Directive.elseWord

mutual

/-- Reads the nodes of one block. Every call is charged to a budget. A directive that opens a
block is charged twice, so a budget of twice the number of tokens is never used up. -/
def readBlock : Nat → List Token → Except TemplateError Block
  | 0, ts => .ok ([], .ended, ts)
  | _, [] => .ok ([], .ended, [])
  | n + 1, .text t :: ts => (readBlock n ts).map (consBlock (.text t))
  | n + 1, .escape e :: ts => do
    let path ← readPath e
    (readBlock n ts).map (consBlock (.value path))
  | n + 1, .evaluate raw :: ts => do
    match ← Directive.parse raw with
    | .otherwise => .ok ([], .otherwise, ts)
    | .close => .ok ([], .close, ts)
    | .branch negate path =>
      let (thenPart, elsePart, rest) ← readBranch n raw ts
      (readBlock n rest).map (consBlock (.branch negate path thenPart elsePart))
    | .loop binder path =>
      let (body, rest) ← readLoop n raw ts
      (readBlock n rest).map (consBlock (.loop binder path body))

/-- Reads the two parts of a branch that `raw` opened, up to its end. -/
def readBranch (n : Nat) (raw : Text) (ts : List Token) :
    Except TemplateError (List Node × List Node × List Token) :=
  match n with
  | 0 => .error (.unclosed raw.trim)
  | n + 1 => do
    let (thenPart, stop, rest) ← readBlock n ts
    match stop with
    | .close => .ok (thenPart, [], rest)
    | .ended => .error (.unclosed raw.trim)
    | .otherwise =>
      let (elsePart, stop, rest) ← readBlock n rest
      match stop with
      | .close => .ok (thenPart, elsePart, rest)
      | .otherwise => .error strayElse
      | .ended => .error (.unclosed raw.trim)

/-- Reads the body of a loop that `raw` opened, up to its end. -/
def readLoop (n : Nat) (raw : Text) (ts : List Token) :
    Except TemplateError (List Node × List Token) :=
  match n with
  | 0 => .error (.unclosed raw.trim)
  | n + 1 => do
    let (body, stop, rest) ← readBlock n ts
    match stop with
    | .close => .ok (body, rest)
    | .otherwise => .error strayElse
    | .ended => .error (.unclosed raw.trim)

end

def parse (ts : List Token) : Except TemplateError (List Node) := do
  let (nodes, stop, _) ← readBlock (2 * ts.length + 2) ts
  match stop with
  | .ended => .ok nodes
  | .otherwise => .error strayElse
  | .close => .error (.unexpectedDirective Directive.endWord)

end Node

end Explainer.Template
