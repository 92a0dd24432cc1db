import Explainer.Regex.Basic

/-!
# Programs

An expression as a list of instructions, each of which names the ones that follow it. Where two
follow, the first is preferred. Programs are put together from the end: the instructions of an
expression are added to a program that holds those of what comes after it.
-/

namespace Explainer.Regex

/-- One instruction. Instructions are named by their numbers. -/
inductive Instruction where
  /-- Takes one character of a set. -/
  | char (set : CharSet) (next : Nat)
  /-- Goes on where a place holds. -/
  | look (look : Look) (word : CharSet) (next : Nat)
  | split (first second : Nat)
  /-- Records the position in a slot. -/
  | save (slot : Nat) (next : Nat)
  | accept
deriving Repr

/-- The instructions of an expression. -/
structure Program where
  code : Array Instruction
  start : Nat
deriving Repr

namespace Program

/-- The instructions so far, and the number of the one to start with. -/
abbrev Part := Array Instruction × Nat

/-- Adds one instruction and starts with it. -/
def add (code : Array Instruction) (i : Instruction) : Part := (code.push i, code.size)

/-- A choice between going on with `body` and with `next`; a greedy one prefers the body. -/
def choice (greedy : Bool) (body next : Nat) : Instruction :=
  if greedy then .split body next else .split next body

/-- How an expression is added to a program: from the instructions and the number of what comes
after it. -/
abbrev Adder := Array Instruction → Nat → Part

/-- So many copies, one after another. -/
def copies (body : Adder) : Nat → Adder
  | 0, code, next => (code, next)
  | n + 1, code, next =>
    let (code, start) := body code next
    copies body n code start

/-- Up to so many copies, each inside the choice of the one before. -/
def upTo (greedy : Bool) (body : Adder) : Nat → Adder
  | 0, code, next => (code, next)
  | n + 1, code, next =>
    let (code, inner) := upTo greedy body n code next
    let (code, start) := body code inner
    add code (choice greedy start next)

/-- At least one copy: behind each of them there is the choice to start again. -/
def oneOrMore (greedy : Bool) (body : Adder) : Adder := fun code next =>
  let (code, again) := add code .accept
  let (code, start) := body code again
  (code.setIfInBounds again (choice greedy start next), start)

def anyNumber (greedy : Bool) (body : Adder) : Adder := fun code next =>
  let (code, start) := oneOrMore greedy body code next
  add code (choice greedy start next)

/-- Adds an expression. -/
def adder : Regex → Adder
  | .empty => fun code next => (code, next)
  | .char s => fun code next => add code (.char s next)
  | .look l w => fun code next => add code (.look l w next)
  | .seq a b => fun code next =>
    let (code, middle) := adder b code next
    adder a code middle
  | .alt a b => fun code next =>
    let (code, first) := adder a code next
    let (code, second) := adder b code next
    add code (.split first second)
  | .many least most greedy body =>
    match most, least with
    | some most, least => fun code next =>
      let (code, rest) := upTo greedy (adder body) (most - least) code next
      copies (adder body) least code rest
    | none, 0 => anyNumber greedy (adder body)
    | none, least + 1 => fun code next =>
      let (code, last) := oneOrMore greedy (adder body) code next
      copies (adder body) least code last
  | .group n body => fun code next =>
    let (code, close) := add code (.save (2 * n + 1) next)
    let (code, start) := adder body code close
    add code (.save (2 * n) start)

/-- The number of instructions of an expression, at most. -/
def size : Regex → Nat
  | .empty => 0
  | .char _ | .look _ _ => 1
  | .seq a b => size a + size b
  | .alt a b => size a + size b + 1
  | .many least most _ body => (max least (most.getD 0) + 1) * (size body + 1)
  | .group _ body => size body + 2

def ofRegex (r : Regex) : Program :=
  let (code, start) := adder r #[.accept] 0
  ⟨code, start⟩

/-- The greatest number of instructions that a program may have. -/
def maxSize : Nat := 327680

/-- The program of an expression, unless it would be too large. -/
def ofRegex? (r : Regex) : Option Program := if size r ≤ maxSize then some (ofRegex r) else none

end Program

end Explainer.Regex
