import Explainer.Markup.Lexer

/-!
# The grammar of markup

A document is a list of nodes: doctypes, entities, texts, elements and stray end tags. An element
is a start tag, nodes and an end tag, written or implied, or a self-closing tag; scripts and
styles hold raw text instead of nodes. The grammar is given as a shift-reduce automaton. Lists
that repeat are built in pairs, so that a list of one is the thing itself.

What may follow a construct depends on whether it stands at the top or inside an element: only at
the top can the markup end there.
-/

namespace Explainer.Markup

/-- Where a construct stands. -/
inductive Context where
  | top
  | inside
deriving DecidableEq, Repr

inductive RawKind where
  | script
  | style
deriving DecidableEq, Repr

/-- What a list of attributes belongs to: raw elements have no self-closing tags. -/
inductive TagKind where
  | plain
  | raw (kind : RawKind)
deriving DecidableEq, Repr

/-- The nonterminal symbols, with those that stand for skipped input. -/
inductive Nonterminal where
  | document
  | nodes
  | doctype
  | element
  | rawElement (kind : RawKind)
  | startTag
  | rawStartTag (kind : RawKind)
  | selfClosingTag
  | endTag
  | strayEndTag
  | attributes (kind : TagKind)
  | attr (kind : TagKind)
  | quotedValue (kind : TagKind)
  /-- A stretch of input that fits no rule. -/
  | error
  /-- Skipped tokens that are not yet a closed stretch. -/
  | skipped
deriving DecidableEq, Repr

namespace Nonterminal

/-- Whether the symbol is shown in the tree. -/
def isVisible : Nonterminal → Bool
  | nodes | attributes _ | skipped => false
  | _ => true

end Nonterminal

/-- The states of the automaton, named for what has been read of the construct at hand. -/
inductive State where
  /-- Input is being skipped. -/
  | skipping
  | start
  /-- The document has been read. -/
  | finished
  /-- Nodes at the top. -/
  | nodes
  /-- Nodes and one more node. -/
  | nodesPair (c : Context)
  /-- The start tag of an element that stands in `c`. -/
  | opened (c : Context)
  /-- The start tag and nodes. -/
  | body (c : Context)
  /-- An element of `n` parts. -/
  | elementDone (n : Nat) (c : Context)
  | lt (c : Context)
  | tagNamed (c : Context)
  | tagAttributes (c : Context)
  | startTagDone (n : Nat)
  | selfClosingDone (n : Nat) (c : Context)
  | rawNamed (k : RawKind)
  | rawAttributes (k : RawKind)
  | rawStartDone (k : RawKind) (n : Nat)
  | rawOpened (k : RawKind) (c : Context)
  | rawFilled (k : RawKind) (c : Context)
  | rawElementDone (k : RawKind) (n : Nat) (c : Context)
  | attributesPair (k : TagKind)
  | attributeNamed (k : TagKind)
  | attributeEquals (k : TagKind)
  | attributeDone (k : TagKind)
  | quoteOpen (k : TagKind) (double : Bool)
  | quoteFilled (k : TagKind) (double : Bool)
  | quoteDone (k : TagKind) (n : Nat)
  /-- The opening of an end tag where no element is open. -/
  | endOpenTop
  /-- The opening of an end tag of an element that stands in `c`. -/
  | endOpen (c : Context)
  /-- The opening of the end tag of an element with raw text. -/
  | rawEndOpen (c : Context)
  | endNamed (c : Context)
  | endTagDone (c : Context)
  | strayNamed (c : Context)
  | strayDone (c : Context)
  | doctypeOpen (c : Context)
  | doctypeNamed (c : Context)
  | doctypeFilled (c : Context)
  | doctypeDone (c : Context)
deriving DecidableEq, Repr

/-- What the automaton does with a token. -/
inductive Action where
  /-- Takes the token into the construct. -/
  | shift (next : State)
  /-- Takes the token without a change of state. -/
  | pass
  /-- Builds a construct of `count` parts. -/
  | reduce (symbol : Nonterminal) (count : Nat)
  | accept
deriving DecidableEq, Repr

namespace State

def follows (c : Context) (t : Terminal) : Bool :=
  match t with
  | .declarationOpen | .tagOpen | .endOpen | .entity | .text => true
  | .ended => c = .top
  | .impliedEnd => c = .inside
  | _ => false

/-- Builds a node at a terminal that can follow it. -/
def reduceNode (symbol : Nonterminal) (count : Nat) (c : Context) (t : Terminal) :
    Option Action :=
  if follows c t then some (.reduce symbol count) else none

/-- The start of a further node in context `c`, which leaves `next` if it is a single token. -/
def nodeStart (c : Context) (next : State) : Terminal → Option Action
  | .declarationOpen => some (.shift (.doctypeOpen c))
  | .tagOpen => some (.shift (.lt c))
  | .entity | .text => some (.shift next)
  | _ => none

/-- The inside of a tag: attributes, or one of the ends that `ends` knows. -/
def tagAction (k : TagKind) (ends : Terminal → Option State) (t : Terminal) : Option Action :=
  match t with
  | .attributeName => some (.shift (.attributeNamed k))
  | t => (ends t).map .shift

def followsAttribute (k : TagKind) : Terminal → Bool
  | .attributeName | .close => true
  | .selfClose => k = .plain
  | _ => false

/-- Builds a part of a tag at a terminal that can follow an attribute. -/
def reduceAttribute (symbol : Nonterminal) (count : Nat) (k : TagKind) (t : Terminal) :
    Option Action :=
  if followsAttribute k t then some (.reduce symbol count) else none

/-- The action of a state on a terminal other than a comment. -/
def action? (s : State) (t : Terminal) : Option Action :=
  match s with
  | skipping => none
  | start =>
    if t = .ended then some (.reduce .document 0)
    else if t = .endOpen then some (.shift .endOpenTop)
    else nodeStart .top .nodes t
  | finished => if t = .ended then some .accept else none
  | nodes =>
    if t = .ended then some (.reduce .document 1)
    else if t = .endOpen then some (.shift .endOpenTop)
    else nodeStart .top (.nodesPair .top) t
  | nodesPair c => reduceNode .nodes 2 c t
  | opened c =>
    if t = .impliedEnd then some (.shift (.elementDone 2 c))
    else if t = .endOpen then some (.shift (.endOpen c))
    else nodeStart .inside (.body c) t
  | body c =>
    if t = .impliedEnd then some (.shift (.elementDone 3 c))
    else if t = .endOpen then some (.shift (.endOpen c))
    else nodeStart .inside (.nodesPair .inside) t
  | elementDone n c => reduceNode .element n c t
  | lt c => match t with
    | .tagName => some (.shift (.tagNamed c))
    | .scriptName => some (.shift (.rawNamed .script))
    | .styleName => some (.shift (.rawNamed .style))
    | _ => none
  | tagNamed c => tagAction .plain (fun
      | .close => some (.startTagDone 3)
      | .selfClose => some (.selfClosingDone 3 c)
      | _ => none) t
  | tagAttributes c => tagAction .plain (fun
      | .close => some (.startTagDone 4)
      | .selfClose => some (.selfClosingDone 4 c)
      | _ => none) t
  | startTagDone n => reduceNode .startTag n .inside t
  | selfClosingDone n c => reduceNode .selfClosingTag n c t
  | rawNamed k => tagAction (.raw k) (fun
      | .close => some (.rawStartDone k 3)
      | _ => none) t
  | rawAttributes k => tagAction (.raw k) (fun
      | .close => some (.rawStartDone k 4)
      | _ => none) t
  | rawStartDone k n =>
    if t = .rawText || t = .endOpen then some (.reduce (.rawStartTag k) n) else none
  | rawOpened k c =>
    if t = .rawText then some (.shift (.rawFilled k c))
    else if t = .endOpen then some (.shift (.rawEndOpen c))
    else none
  | rawFilled _ c => if t = .endOpen then some (.shift (.rawEndOpen c)) else none
  | rawElementDone k n c => reduceNode (.rawElement k) n c t
  | attributesPair k => reduceAttribute (.attributes k) 2 k t
  | attributeNamed k =>
    if t = .equals then some (.shift (.attributeEquals k))
    else reduceAttribute (.attr k) 1 k t
  | attributeEquals k => match t with
    | .attributeValue => some (.shift (.attributeDone k))
    | .apostrophe => some (.shift (.quoteOpen k false))
    | .quote => some (.shift (.quoteOpen k true))
    | _ => none
  | attributeDone k => reduceAttribute (.attr k) 3 k t
  | quoteOpen k double => match t, double with
    | .apostropheText, false | .quoteText, true => some (.shift (.quoteFilled k double))
    | .apostrophe, false | .quote, true => some (.shift (.quoteDone k 2))
    | _, _ => none
  | quoteFilled k double => match t, double with
    | .apostrophe, false | .quote, true => some (.shift (.quoteDone k 3))
    | _, _ => none
  | quoteDone k n => reduceAttribute (.quotedValue k) n k t
  | endOpenTop => if t = .strayEndName then some (.shift (.strayNamed .top)) else none
  | endOpen c => match t with
    | .endName => some (.shift (.endNamed c))
    | .strayEndName => some (.shift (.strayNamed .inside))
    | _ => none
  | rawEndOpen c => if t = .endName then some (.shift (.endNamed c)) else none
  | endNamed c => if t = .close then some (.shift (.endTagDone c)) else none
  | endTagDone c => reduceNode .endTag 3 c t
  | strayNamed c => if t = .close then some (.shift (.strayDone c)) else none
  | strayDone c => reduceNode .strayEndTag 3 c t
  | doctypeOpen c => if t = .doctypeWord then some (.shift (.doctypeNamed c)) else none
  | doctypeNamed c => if t = .doctypeBody then some (.shift (.doctypeFilled c)) else none
  | doctypeFilled c => if t = .close then some (.shift (.doctypeDone c)) else none
  | doctypeDone c => reduceNode .doctype 4 c t

/-- The action of a state on a terminal. Comments may stand anywhere. -/
def action (s : State) (t : Terminal) : Option Action :=
  if t = .comment && s ≠ .skipping then some .pass else s.action? t

def nodeContext : State → Context
  | start | nodes | nodesPair .top => .top
  | _ => .inside

def afterNode : State → State
  | start => .nodes
  | nodes => .nodesPair .top
  | nodesPair c => .nodesPair c
  | opened c => .body c
  | _ => .nodesPair .inside

/-- The state after a construct. -/
def goto (s : State) : Nonterminal → State
  | .document => .finished
  | .nodes => match s with
    | opened c => .body c
    | nodesPair c => .nodesPair c
    | body _ => .nodesPair .inside
    | nodes => .nodesPair .top
    | _ => .nodes
  | .doctype | .element | .rawElement _ | .strayEndTag => s.afterNode
  | .startTag => .opened s.nodeContext
  | .rawStartTag k => .rawOpened k s.nodeContext
  | .selfClosingTag => .elementDone 1 s.nodeContext
  | .endTag => match s with
    | opened c => .elementDone 2 c
    | body c => .elementDone 3 c
    | rawOpened k c => .rawElementDone k 2 c
    | rawFilled k c => .rawElementDone k 3 c
    | s => s
  | .attributes _ | .attr _ => match s with
    | tagNamed c => .tagAttributes c
    | rawNamed k => .rawAttributes k
    | tagAttributes _ | attributesPair .plain => .attributesPair .plain
    | rawAttributes k | attributesPair (.raw k) => .attributesPair (.raw k)
    | s => s
  | .quotedValue k => .attributeDone k
  | .error | .skipped => s

/-- What the lexer looks for in a state. -/
def lexMode : State → LexMode
  | start | nodes | nodesPair _ | opened _ | body _ | elementDone .. | startTagDone _
  | selfClosingDone .. | rawElementDone .. | endTagDone _ | strayDone _ | doctypeDone _ => .content
  | tagNamed _ | tagAttributes _ | rawNamed _ | rawAttributes _ | attributesPair _
  | attributeNamed _ | attributeDone _ | quoteDone .. => .tag
  | attributeEquals _ => .value
  | quoteOpen _ double => if double then .quote else .apostrophe
  | doctypeNamed _ => .doctype
  | _ => .any

/-- Whether the lexer may find a contextual token in a state. -/
def admits (s : State) (t : Terminal) : Bool := s = .skipping || (s.action t).isSome

end State

end Explainer.Markup
