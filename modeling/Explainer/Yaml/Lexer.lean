import Explainer.Yaml.Token

/-!
# Cutting a text into tokens

Block structure is read off columns: a mapping or sequence starts where a key or an entry stands
further right than the collection around it, and ends where something stands further left. A key
is known as one only by the colon behind it, so the places at which a key may have started are kept
until then: one for each open flow collection, and one outside. A key ends on the line it starts
on, and has a bounded length.
-/

namespace Explainer.Yaml

/-- A place at which a key may have started. -/
structure Candidate where
  /-- Whether nothing but a key can stand there. -/
  required : Bool
  /-- The number of tokens before it. -/
  position : Nat
  line : Nat
  column : Nat
  index : Nat

/-- The state of the cut. -/
structure Lexer where
  tokens : Array Token
  /-- The columns of the open block collections, innermost first. -/
  indents : List Nat
  /-- The place outside flow collections at which a key may have started. -/
  outer : Option Candidate
  /-- Such places in the open flow collections, innermost first. -/
  inner : List (Option Candidate)
  /-- Whether a key may start here. -/
  keyAllowed : Bool

namespace Lexer

/-- Before the first token. -/
def start : Lexer := ⟨#[], [], none, [], true⟩

/-- Whether a flow collection is open. -/
def inFlow (l : Lexer) : Bool := !l.inner.isEmpty

def emit (l : Lexer) (t : Token) : Lexer := { l with tokens := l.tokens.push t }

/-- The lexer, allowing or forbidding a key to start here. -/
def allow (l : Lexer) (keyAllowed : Bool) : Lexer := { l with keyAllowed := keyAllowed }

/-! ## Candidates -/

/-- The candidate of the innermost flow collection, or the outer one. -/
def candidate (l : Lexer) : Option Candidate :=
  match l.inner with
  | c :: _ => c
  | [] => l.outer

def setCandidate (l : Lexer) (c : Option Candidate) : Lexer :=
  match l.inner with
  | _ :: rest => { l with inner := c :: rest }
  | [] => { l with outer := c }

/-- Gives up the candidate. It was an error if nothing but a key could have stood there. -/
def dropCandidate (l : Lexer) : Option Lexer :=
  if l.candidate.any (·.required) then none else some (l.setCandidate none)

/-- Notes that a key may start here. -/
def saveCandidate (l : Lexer) (p : Spot) : Option Lexer :=
  if l.keyAllowed then do
    let required := !l.inFlow && l.indents.head? = some p.column
    let l ← l.dropCandidate
    some (l.setCandidate (some ⟨required, l.tokens.size, p.line, p.column, p.index⟩))
  else some l

/-- The greatest length of a key. -/
def maxKey : Nat := 1024

/-- A candidate, unless its line has ended or the key would be too long. -/
def current (p : Spot) : Option Candidate → Option (Option Candidate)
  | none => some none
  | some c =>
    if c.line < p.line || c.index + maxKey < p.index then
      if c.required then none else some none
    else some (some c)

/-- Gives up the candidates that can no longer start a key. -/
def expire (l : Lexer) (p : Spot) : Option Lexer := do
  let outer ← current p l.outer
  let inner ← l.inner.mapM (current p)
  some { l with outer := outer, inner := inner }

/-! ## Indentation -/

/-- Opens a block collection at a column that lies further right, with its token at a position. -/
def indentAt (l : Lexer) (column position : Nat) (t : Token) : Lexer :=
  if l.inFlow || l.indents.head?.any (column ≤ ·) then l
  else { l with
    indents := column :: l.indents, tokens := l.tokens.insertIdxIfInBounds position t }

/-- Opens a block collection here. -/
def indent (l : Lexer) (p : Spot) (t : Token) : Lexer := l.indentAt p.column l.tokens.size t

/-- Closes block collections while they lie further right than the column. -/
def closeTo (column : Nat) : List Nat → Array Token → List Nat × Array Token
  | [], tokens => ([], tokens)
  | i :: rest, tokens =>
    if column < i then closeTo column rest (tokens.push .blockEnd) else (i :: rest, tokens)

/-- Closes the block collections that lie further right than the column. -/
def outdent (l : Lexer) (column : Nat) : Lexer :=
  if l.inFlow then l
  else
    let (indents, tokens) := closeTo column l.indents l.tokens
    { l with indents := indents, tokens := tokens }

/-- Closes all block collections. -/
def outdentAll (l : Lexer) : Lexer :=
  if l.inFlow then l
  else { l with
    indents := [], tokens := l.tokens ++ Array.replicate l.indents.length .blockEnd }

/-- The least column of the lines of a scalar here. -/
def leastColumn (l : Lexer) : Nat :=
  match l.indents with
  | [] => 0
  | i :: _ => i + 1

/-! ## Steps -/

/-- What follows the white space and comments here, and whether a key may start there. A line end
allows it outside flow collections. -/
def skipSpace (flow keyAllowed comment : Bool) : List Spot → Bool × List Spot
  | [] => (keyAllowed, [])
  | p :: rest =>
    if isBreak p.char then skipSpace flow (keyAllowed || !flow) false rest
    else if comment then skipSpace flow keyAllowed true rest
    else if p.char = ' ' || (p.char = '\t' && (flow || !keyAllowed)) then
      skipSpace flow keyAllowed false rest
    else if p.char = '#' then skipSpace flow keyAllowed true rest
    else (keyAllowed, p :: rest)

/-- What a step leaves: the state and the rest of the text. -/
abbrev Next := Option (Lexer × List Spot)

/-- A mark or directive, which stands outside all collections. -/
def outermost (l : Lexer) (t : Token) (rest : List Spot) : Next := do
  let l ← l.outdentAll.dropCandidate
  some ((l.allow false).emit t, rest)

/-- The start of a flow collection. -/
def openFlow (l : Lexer) (p : Spot) (t : Token) (rest : List Spot) : Next := do
  let l ← l.saveCandidate p
  some (({ l with inner := none :: l.inner }.allow true).emit t, rest)

/-- The end of a flow collection. -/
def closeFlow (l : Lexer) (t : Token) (rest : List Spot) : Next := do
  let l ← l.dropCandidate
  some (({ l with inner := l.inner.tail }.allow false).emit t, rest)

/-- The sign between entries of a flow collection. -/
def nextFlowEntry (l : Lexer) (rest : List Spot) : Next := do
  let l ← l.dropCandidate
  some ((l.allow true).emit .flowEntry, rest)

/-- The sign before an entry of a block sequence. -/
def nextBlockEntry (l : Lexer) (p : Spot) (rest : List Spot) : Next :=
  if !l.inFlow && !l.keyAllowed then none
  else do
    let l ← (l.indent p .blockSequence).dropCandidate
    some ((l.allow true).emit .blockEntry, rest)

/-- The sign before a key. -/
def nextKey (l : Lexer) (p : Spot) (rest : List Spot) : Next :=
  if !l.inFlow && !l.keyAllowed then none
  else do
    let l ← (l.indent p .blockMapping).dropCandidate
    some ((l.allow !l.inFlow).emit .key, rest)

/-- The sign before a value. It makes the candidate a key. -/
def nextValue (l : Lexer) (p : Spot) (rest : List Spot) : Next :=
  match l.candidate with
  | some c =>
    let l := { l with tokens := l.tokens.insertIdxIfInBounds c.position .key }
    let l := (l.indentAt c.column c.position .blockMapping).setCandidate none
    some ((l.allow false).emit .value, rest)
  | none =>
    if !l.inFlow && !l.keyAllowed then none
    else some (((l.indent p .blockMapping).allow !l.inFlow).emit .value, rest)

/-- A token that may be the start of a key. -/
def nextWord (l : Lexer) (p : Spot) (read : Option (Token × List Spot)) : Next := do
  let l ← l.saveCandidate p
  let (t, rest) ← read
  some ((l.allow false).emit t, rest)

def nextPlain (l : Lexer) (p : Spot) (rest : List Spot) : Next := do
  let l ← l.saveCandidate p
  let plain ← readPlain l.inFlow l.leastColumn [] .none (p :: rest)
  some ((l.allow plain.broken).emit (.scalar true plain.value), plain.rest)

def nextBlock (l : Lexer) (folded : Bool) (rest : List Spot) : Next := do
  let l ← l.dropCandidate
  let (value, rest) ← readBlock folded l.leastColumn (l.indents.head?.getD 0) rest
  some ((l.allow true).emit (.scalar false value), rest)

/-- The characters that cannot start a plain scalar. -/
def indicators : Text :=
  ['-', '?', ':', ',', '[', ']', '{', '}', '#', '&', '*', '!', '|', '>', '\'', '"', '%', '@',
    '\x60']

/-- Whether a plain scalar starts here. -/
def startsPlain (l : Lexer) (p : Spot) (rest : List Spot) : Bool :=
  !indicators.contains p.char || (p.char = '-' && !(ahead rest 0).any isGap)
    || (!l.inFlow && (p.char = '?' || p.char = ':') && !endsWord rest)

/-- Cuts off one token, or those that start with a character. -/
def step (l : Lexer) (p : Spot) (rest : List Spot) : Next :=
  let s := p :: rest
  let alone := l.inFlow || endsWord rest
  if p.column = 0 && p.char = '%' then
    (readDirective rest).bind fun (t, rest) => l.outermost t rest
  else if atMark startMark s then l.outermost .documentStart (s.drop 3)
  else if atMark endMark s then l.outermost .documentEnd (s.drop 3)
  else if p.char = '[' then l.openFlow p .flowSequence rest
  else if p.char = '{' then l.openFlow p .flowMapping rest
  else if p.char = ']' then l.closeFlow .flowSequenceEnd rest
  else if p.char = '}' then l.closeFlow .flowMappingEnd rest
  else if p.char = ',' then l.nextFlowEntry rest
  else if p.char = '-' && endsWord rest then l.nextBlockEntry p rest
  else if p.char = '?' && alone then l.nextKey p rest
  else if p.char = ':' && alone then l.nextValue p rest
  else if p.char = '*' then l.nextWord p ((readName rest).map fun (n, r) => (.alias n, r))
  else if p.char = '&' then l.nextWord p ((readName rest).map fun (n, r) => (.anchor n, r))
  else if p.char = '!' then l.nextWord p (readTag l.inFlow rest)
  else if p.char = '|' && !l.inFlow then l.nextBlock false rest
  else if p.char = '>' && !l.inFlow then l.nextBlock true rest
  else if p.char = '\'' then
    l.nextWord p ((readSingle [] .none rest).map fun (v, r) => (.scalar false v, r))
  else if p.char = '"' then
    l.nextWord p ((readDouble .character [] .none rest).map fun (v, r) => (.scalar false v, r))
  else if l.startsPlain p rest then l.nextPlain p rest
  else none

/-- The tokens up to the end of the text. Every step takes at least one character. -/
def run : Nat → Lexer → List Spot → Option (List Token)
  | 0, _, _ => none
  | fuel + 1, l, s =>
    match skipSpace l.inFlow l.keyAllowed false s with
    | (_, []) => (l.outdentAll.dropCandidate).map fun l => l.tokens.toList
    | (keyAllowed, p :: rest) => do
      let l ← (l.allow keyAllowed).expire p
      let (l, rest) ← (l.outdent p.column).step p rest
      run fuel l rest

end Lexer

def tokens? (s : Text) : Option (List Token) :=
  (layOut? s).bind fun spots => Lexer.run (spots.length + 1) .start spots

end Explainer.Yaml
