import Explainer.Markup.Grammar

/-!
# Subtrees and what their faults cost

While markup is read, every subtree knows what the faults in it cost. Skipping is charged by the
stretch, by the byte, by the line and by the tree that is thrown away; supposing a token that is
missing has a fixed price. Of two ways to read faulty markup the cheaper one is kept.
-/

namespace Explainer.Markup

inductive Symbol where
  | terminal (t : Terminal)
  | construct (n : Nonterminal)
deriving DecidableEq, Repr

namespace Symbol

/-- Whether the symbol is shown in the tree. -/
def isVisible : Symbol → Bool
  | terminal t => t.isVisible
  | construct n => n.isVisible

/-- Whether the symbol stands for input that fits no rule. -/
def isError (s : Symbol) : Bool := s = terminal .junk || s = construct .error

end Symbol

/-- Prices of faults. -/
structure Prices where
  stretch : Nat
  byte : Nat
  line : Nat
  tree : Nat
  supposed : Nat

/-- The prices that decide between readings. -/
def prices : Prices := ⟨500, 1, 30, 100, 110⟩

structure Subtree where
  symbol : Symbol
  start : Place
  stop : Place
  /-- Whether it stands beside the structure, as comments and skipped stretches do. -/
  isBeside : Bool
  /-- The open elements after a contextual token. -/
  names : Option (List ElementName)
  /-- What the faults in it cost. -/
  cost : Nat
  /-- The number of shown children, those of hidden children included and junk left out: junk is
  charged by its length alone. -/
  shown : Nat
  /-- The number of shown subtrees below. -/
  descendants : Nat
  children : List Subtree

namespace Subtree

/-- Whether a subtree is shown in the tree. -/
def isVisible (t : Subtree) : Bool := t.symbol.isVisible

def ofLexeme (l : Lexeme) : Subtree :=
  ⟨.terminal l.terminal, l.start, l.stop, l.terminal = .ended, l.names, 0, 0, 0, []⟩

/-- A token that is supposed at a place where it is missing. -/
def supposed (t : Terminal) (p : Place) : Subtree :=
  ⟨.terminal t, p, p, false, none, prices.supposed + prices.stretch, 0, 0, []⟩

/-- What throwing a subtree away costs, beyond its length: one tree, or the trees shown in it. -/
def discardCost (t : Subtree) : Nat :=
  if t.isBeside || (t.symbol.isError && t.children.isEmpty) then 0
  else if t.isVisible then prices.tree
  else prices.tree * t.shown

/-- A measure of subtrees, added up over a list of them. -/
def total (measure : Subtree → Nat) : List Subtree → Nat
  | [] => 0
  | t :: rest => measure t + total measure rest

/-- A construct of the given parts; `p` is where it stands if it has none. -/
def ofChildren (n : Nonterminal) (p : Place) (cs : List Subtree) : Subtree :=
  let start := (cs.head?.map Subtree.start).getD p
  let stop := (cs.getLast?.map Subtree.stop).getD p
  let below := total (fun c => if c.symbol = .construct .skipped then 0 else c.cost) cs
  let skipping :=
    if n = .error || n = .skipped then
      total discardCost cs + prices.stretch + prices.byte * (stop.byte - start.byte)
        + prices.line * (stop.row - start.row)
    else 0
  let shown := total (fun c =>
    if c.symbol = .terminal .junk then 0 else if c.isVisible then 1 else c.shown) cs
  let descendants := total (fun c => c.descendants + if c.isVisible then 1 else 0) cs
  ⟨.construct n, start, stop, false, none, below + skipping, shown, descendants, cs⟩

/-- How much a subtree counts as progress. -/
def progress (t : Subtree) : Nat :=
  t.descendants + (if t.isVisible || t.symbol = .construct .skipped then 1 else 0)

/-- Splits off the subtrees at the end of a list that stand beside the structure. -/
def splitTrailing (ts : List Subtree) : List Subtree × List Subtree :=
  let beside := (ts.reverse.takeWhile isBeside).reverse
  (ts.take (ts.length - beside.length), beside)

/-- Whether the second of two readings of a stretch is to be preferred. -/
def prefersSecond (a b : Subtree) : Bool := b.cost < a.cost || (a.cost = b.cost && 0 < a.cost)

/-- Whether two subtrees need not be told apart. -/
def sameReading (a b : Subtree) : Bool :=
  a.symbol = b.symbol
    && ((0 < a.cost && 0 < b.cost)
      || (a.start.byte = b.start.byte && a.stop.byte = b.stop.byte
        && a.children.length = b.children.length && a.isBeside = b.isBeside && a.names = b.names))

end Subtree

end Explainer.Markup
