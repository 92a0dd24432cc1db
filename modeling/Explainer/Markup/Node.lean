import Explainer.Text.Basic

/-!
# The tree of a markup text

The tree has a node for every construct and for every token that is shown, each with the range of
bytes where it stands. What could not be read stands in nodes of its own.
-/

namespace Explainer.Markup

/-- A range of bytes. -/
structure Extent where
  start : Nat
  stop : Nat
deriving DecidableEq, Repr

namespace Extent

/-- The empty range at the end of a range. -/
def endpoint (e : Extent) : Extent := ⟨e.stop, e.stop⟩

end Extent

/-- What a node is. -/
inductive Kind where
  | document
  | doctype
  | element
  | scriptElement
  | styleElement
  | startTag
  | selfClosingTag
  | endTag
  | strayEndTag
  | attr
  | attributeName
  | attributeValue
  | quotedValue
  | tagName
  | strayEndName
  | text
  | entity
  | rawText
  | comment
  /-- A stretch that fits no rule. -/
  | error
  /-- The opening angle bracket of a tag. -/
  | tagOpen
  /-- The end of a tag. -/
  | close
  /-- The end of a self-closing tag. -/
  | selfClose
  /-- Any other mark. -/
  | mark
deriving DecidableEq, Repr

namespace Kind

def isElement : Kind → Bool
  | element | scriptElement | styleElement => true
  | _ => false

def isOpenTag : Kind → Bool
  | startTag | selfClosingTag => true
  | _ => false

def isTagEnd : Kind → Bool
  | close | selfClose => true
  | _ => false

end Kind

/-- A node: what it is, where it stands, and the nodes it consists of. -/
inductive Node where
  | mk (kind : Kind) (extent : Extent) (children : List Node)
deriving Repr

namespace Node

def kind : Node → Kind
  | mk k _ _ => k

/-- Where a node stands. -/
def extent : Node → Extent
  | mk _ e _ => e

def children : Node → List Node
  | mk _ _ cs => cs

/-- The first byte of a node. -/
def start (n : Node) : Nat := n.extent.start

/-- The byte after a node. -/
def stop (n : Node) : Nat := n.extent.stop

end Node

end Explainer.Markup
