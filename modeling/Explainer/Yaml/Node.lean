import Explainer.Json.Basic
import Explainer.Yaml.Lexer

/-!
# Documents

The tokens of a text make a document of scalars, sequences and mappings. Nodes may carry an anchor,
and an alias stands for the node whose anchor it names. Aliases are kept, since a node may hold an
alias of itself.

Anchors are numbered, and an alias holds a number. A new anchor takes the number of names in use so
far, also when its own name is one of them; an alias stands for the last node that took its number.
-/

namespace Explainer.Yaml

/-- A part of a document. -/
inductive Node where
  /-- `plain` says that the value is not quoted and no block. -/
  | scalar (plain : Bool) (tag : Option Text) (value : Text)
  | sequence (tag : Option Text) (items : List Node)
  | mapping (tag : Option Text) (members : List (Node × Node))
  | alias (anchor : Nat)
deriving Repr

/-- An anchored node: its number, its rank among the anchored nodes, and itself. -/
structure Anchored where
  number : Nat
  rank : Nat
  node : Node

structure Document where
  root : Node
  anchored : List Anchored

namespace Document

/-- The last node that took a number. -/
def find? (d : Document) (number : Nat) : Option Node :=
  let nodes := d.anchored.filter (·.number = number)
  (nodes.foldl (fun (best : Option Anchored) a =>
    if best.all (·.rank ≤ a.rank) then some a else best) none).map (·.node)

/-- The node that a node stands for: itself, unless it is an alias. -/
def resolve (d : Document) : Node → Node
  | .alias number => (d.find? number).getD (.alias number)
  | n => n

end Document

/-- What reading a document needs to know: the tokens ahead, the tag handles, the names in use
with their numbers, and the anchored nodes. -/
structure Reading where
  tokens : List Token
  handles : Members Text
  names : Members Nat
  /-- How many nodes have been anchored. -/
  rank : Nat
  anchored : List Anchored

/-- A reader that may fail. -/
abbrev Reader (α : Type) := StateT Reading Option α

namespace Reader

/-- The token ahead, if there is one. -/
def peek : Reader (Option Token) := do return (← get).tokens.head?

/-- Passes over the token ahead. -/
def skip : Reader Unit := modify fun r => { r with tokens := r.tokens.tail }

/-- Whether the token ahead is this one. -/
def sees (t : Token) : Reader Bool := do return (← peek) = some t

/-- Passes over this token, which must be ahead. -/
def expect (t : Token) : Reader Unit := do
  if ← sees t then skip else failure

/-- Whether one of these tokens is ahead. -/
def seesAny (ts : List Token) : Reader Bool := do return (← peek).any ts.contains

/-- Reads a name behind an anchor sign, if there is one. -/
def anchor? : Reader (Option Text) := do
  match ← peek with
  | some (.anchor name) => skip; return some name
  | _ => return none

/-- Reads a tag, if there is one. Its handle must be known. -/
def tag? : Reader (Option Text) := do
  match ← peek with
  | some (.tag handle suffix) =>
    skip
    if handle.isEmpty then return some suffix
    match Members.find? handle (← get).handles with
    | some standsFor => return some (standsFor ++ suffix)
    | none => failure
  | _ => return none

/-- Reads an anchor and a tag, in either order. -/
def properties : Reader (Option Text × Option Text) := do
  match ← anchor? with
  | some name => return (some name, ← tag?)
  | none =>
    let tag ← tag?
    return (← anchor?, tag)

/-- The number and rank of a node that starts here, if it has an anchor. -/
def number? : Option Text → Reader (Option (Nat × Nat))
  | none => return none
  | some name => do
    let r ← get
    let number := r.names.length
    set { r with names := Members.insert name number r.names, rank := r.rank + 1 }
    return some (number, r.rank)

def keep (place : Option (Nat × Nat)) (n : Node) : Reader Node := do
  match place with
  | none => return n
  | some (number, rank) =>
    modify fun r => { r with anchored := ⟨number, rank, n⟩ :: r.anchored }
    return n

/-- The number that an alias means. The name must be in use. -/
def numberOf (name : Text) : Reader Nat := do
  match Members.find? name (← get).names with
  | some number => return number
  | none => failure

/-- The node that stands where nothing is written. -/
def nothing : Node := .scalar true none []

/-- The tag of a scalar, unless it says no more than that there is one. -/
def scalarTag (tag : Option Text) : Option Text := tag.filter (· ≠ ['!'])

/-- The node of an anchor or a tag that stand alone. -/
def bare (name tag : Option Text) (place : Option (Nat × Nat)) : Reader Node :=
  if name.isSome || tag.isSome then keep place (.scalar true (scalarTag tag) []) else failure

/-- Reads a node, unless one of the given tokens is ahead, which leaves nothing to read. -/
def unlessAny (stops : List Token) (node : Reader Node) : Reader Node := do
  if ← seesAny stops then return nothing else node

/-- Reads a value behind its sign; without the sign it is nothing. -/
def valueOf (stops : List Token) (node : Reader Node) : Reader Node := do
  if ← sees .value then skip; unlessAny stops node
  else return nothing

mutual

/-- Reads a node. `block` admits block collections, and `indentless` also sequences that are not
indented. -/
def node (block indentless : Bool) : Nat → Reader Node
  | 0 => failure
  | fuel + 1 => do
    match ← peek with
    | some (.alias name) => skip; return .alias (← numberOf name)
    | _ =>
      let (name, tag) ← properties
      let place ← number? name
      match ← peek with
      | some (.scalar plain value) => skip; keep place (.scalar plain (scalarTag tag) value)
      | some .flowSequence => skip; keep place (.sequence tag (← flowItems true fuel))
      | some .flowMapping => skip; keep place (.mapping tag (← flowMembers true fuel))
      | some .blockSequence =>
        if block then skip; keep place (.sequence tag (← blockItems fuel))
        else bare name tag place
      | some .blockMapping =>
        if block then skip; keep place (.mapping tag (← blockMembers fuel))
        else bare name tag place
      | some .blockEntry =>
        if indentless then keep place (.sequence tag (← indentlessItems fuel))
        else bare name tag place
      | _ => bare name tag place

/-- Reads the items of a block sequence. -/
def blockItems : Nat → Reader (List Node)
  | 0 => failure
  | fuel + 1 => do
    if ← sees .blockEnd then skip; return []
    expect .blockEntry
    let item ← unlessAny [.blockEntry, .blockEnd] (node true false fuel)
    return item :: (← blockItems fuel)

/-- Reads the items of a block sequence that is not indented. -/
def indentlessItems : Nat → Reader (List Node)
  | 0 => failure
  | fuel + 1 => do
    if ← sees .blockEntry then
      skip
      let item ← unlessAny [.blockEntry, .key, .value, .blockEnd] (node true false fuel)
      return item :: (← indentlessItems fuel)
    else return []

/-- Reads the members of a block mapping. -/
def blockMembers : Nat → Reader (List (Node × Node))
  | 0 => failure
  | fuel + 1 => do
    if ← sees .blockEnd then skip; return []
    expect .key
    let key ← unlessAny [.key, .value, .blockEnd] (node true true fuel)
    let value ← valueOf [.key, .value, .blockEnd] (node true true fuel)
    return (key, value) :: (← blockMembers fuel)

/-- Reads the items of a flow sequence. A key in it makes a mapping of one member. -/
def flowItems (first : Bool) : Nat → Reader (List Node)
  | 0 => failure
  | fuel + 1 => do
    if ← sees .flowSequenceEnd then skip; return []
    if !first then expect .flowEntry
    if ← sees .key then
      skip
      let key ← unlessAny [.value, .flowEntry, .flowSequenceEnd] (node false false fuel)
      let value ← valueOf [.flowEntry, .flowSequenceEnd] (node false false fuel)
      return .mapping none [(key, value)] :: (← flowItems false fuel)
    else if ← sees .flowSequenceEnd then skip; return []
    else
      let item ← node false false fuel
      return item :: (← flowItems false fuel)

/-- Reads the members of a flow mapping. -/
def flowMembers (first : Bool) : Nat → Reader (List (Node × Node))
  | 0 => failure
  | fuel + 1 => do
    if ← sees .flowMappingEnd then skip; return []
    if !first then expect .flowEntry
    if ← sees .key then
      skip
      let key ← unlessAny [.value, .flowEntry, .flowMappingEnd] (node false false fuel)
      let value ← valueOf [.flowEntry, .flowMappingEnd] (node false false fuel)
      return (key, value) :: (← flowMembers false fuel)
    else if ← sees .flowMappingEnd then skip; return []
    else
      let key ← node false false fuel
      return (key, nothing) :: (← flowMembers false fuel)

end

/-- The handles that need no declaration. -/
def standardHandles : Members Text :=
  Members.ofList [(['!'], ['!']), (['!', '!'], "tag:yaml.org,2002:".toList)]

/-- Reads the directives before a document: a version that is understood, at most once, and
handles, each at most once. Answers whether there were any. -/
def directives (version : Bool) (declared : List Text) : List Token → Reader Bool
  | .version major minor :: rest => do
    if version || major ≠ 1 || (minor ≠ 1 && minor ≠ 2) then failure
    skip
    let _ ← directives true declared rest
    return true
  | .tagHandle handle standsFor :: rest => do
    if declared.contains handle then failure
    skip
    modify fun r => { r with handles := Members.insert handle standsFor r.handles }
    let _ ← directives version (handle :: declared) rest
    return true
  | _ => return false

/-- Reads the only document. A text without tokens has none. -/
def document (fuel : Nat) : Reader (Option Document) := do
  if (← peek).isNone then return none
  let declared ← directives false [] (← get).tokens
  let explicit ← sees .documentStart
  if explicit then skip
  else if declared then failure
  let next ← peek
  let absent := explicit && (next.isNone || next.any fun t =>
    match t with
    | .version .. | .tagHandle .. | .documentStart | .documentEnd => true
    | _ => false)
  let root ← if absent then pure nothing else node true false fuel
  let r ← get
  if (r.tokens.dropWhile (· = .documentEnd)).isEmpty then return some ⟨root, r.anchored⟩
  else failure

end Reader

/-- The document that a text is; the inner option is empty if the text says nothing. -/
def Document.parse? (s : Text) : Option (Option Document) := do
  let tokens ← tokens? s
  let (d, _) ← Reader.document (2 * tokens.length + 2)
    ⟨tokens, Reader.standardHandles, [], 0, []⟩
  some d

end Explainer.Yaml
