import Explainer.Markup.Fragment
import Explainer.Markup.Recovery

/-!
# The standard reader

Every construct and token that is shown gives a node. Hidden constructs, the lists, give their
nodes to the construct they stand in; hidden tokens leave no node. Any text has a tree.
-/

namespace Explainer.Markup

namespace Kind

def ofTerminal : Terminal → Kind
  | .attributeName => attributeName
  | .attributeValue | .apostropheText | .quoteText => attributeValue
  | .entity => entity
  | .text => text
  | .tagName | .scriptName | .styleName | .endName => tagName
  | .strayEndName => strayEndName
  | .rawText => rawText
  | .comment => comment
  | .junk => error
  | .tagOpen => .tagOpen
  | .close => close
  | .selfClose => selfClose
  | _ => mark

def ofNonterminal : Nonterminal → Kind
  | .document => document
  | .doctype => doctype
  | .element => element
  | .rawElement .script => scriptElement
  | .rawElement .style => styleElement
  | .startTag | .rawStartTag _ => startTag
  | .selfClosingTag => selfClosingTag
  | .endTag => endTag
  | .strayEndTag => strayEndTag
  | .attr _ => attr
  | .quotedValue _ => quotedValue
  | .error | .skipped | .nodes | .attributes _ => error

end Kind

mutual

/-- The nodes that a subtree gives to the construct it stands in. -/
def Subtree.nodes : Subtree → List Node
  | ⟨symbol, start, stop, _, _, _, _, _, children⟩ =>
    let inner := Subtree.nodesAll children
    if symbol.isVisible then
      let kind := match symbol with
        | .terminal t => Kind.ofTerminal t
        | .construct n => Kind.ofNonterminal n
      [.mk kind ⟨start.byte, stop.byte⟩ inner]
    else inner

def Subtree.nodesAll : List Subtree → List Node
  | [] => []
  | t :: rest => t.nodes ++ nodesAll rest

end

/-- The root of a tree. -/
def Subtree.root (t : Subtree) : Node := (t.nodes.head?).getD (.mk .document ⟨0, 0⟩ [])

/-- The reader whose grammar is at hand and which repairs what is malformed. -/
def Reader.standard : Reader :=
  .ofParser none fun text =>
    let tree := Subtree.parse text
    some (tree.root, 0 < tree.cost)

end Explainer.Markup
