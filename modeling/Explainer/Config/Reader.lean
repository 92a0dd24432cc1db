import Explainer.Config
import Explainer.Yaml.Node

/-!
# Settings in YAML

Settings are written as a mapping. A setting that is left out has its standard value; a setting
that is unknown or written twice is an error, and so is a value of the wrong form. Texts accept any
scalar as it is written. Numbers and truth values must be plain.
-/

namespace Explainer.Config

open Yaml (Document Node)

/-- The spellings of nothing. -/
def nullWords : List Text := ["null".toList, "Null".toList, "NULL".toList, ['~']]

/-- The tag of nothing. -/
def nullTag : Text := "tag:yaml.org,2002:null".toList

/-- The spellings of the truth values. -/
def boolWords : List (Text × Bool) := [
  ("true".toList, true), ("True".toList, true), ("TRUE".toList, true), ("false".toList, false),
  ("False".toList, false), ("FALSE".toList, false)]

/-- The marks before numbers in other bases. -/
def bases : List (Text × Nat) := [("0x".toList, 16), ("0o".toList, 8), ("0b".toList, 2)]

def digitIn? (base : Nat) (c : Char) : Option Nat := (hexValue? c).filter (· < base)

/-- The number that digits of a base spell, if it fits a word. -/
def wordIn? (base : Nat) (s : Text) : Option Nat :=
  if s.isEmpty then none
  else (s.foldlM (fun n c => (digitIn? base c).map (base * n + ·)) 0).filter (· ≤ maxWord)

/-- A text without a plus sign at its start. -/
def dropPlus : Text → Text
  | '+' :: rest => rest
  | s => s

/-- The number that a plain scalar spells: in base sixteen, eight or two behind the mark of the
base, else in base ten without leading zeros; a plus sign may precede it. -/
def wordOf? (s : Text) : Option Nat :=
  let s := dropPlus s
  let marked := bases.findSome? fun (mark, base) =>
    if mark.isPrefixOf s then wordIn? base (s.drop mark.length) else none
  match marked with
  | some n => some n
  | none => if 1 < s.length && s.head? = some '0' then none else wordIn? 10 s

def readText (d : Document) (n : Node) : Option Text :=
  match d.resolve n with
  | .scalar _ _ value => some value
  | _ => none

/-- The texts of a sequence. Nothing at all is no texts. -/
def readTexts (d : Document) (n : Node) : Option (List Text) :=
  match d.resolve n with
  | .sequence _ items => items.mapM (readText d)
  | .scalar true _ [] => some []
  | _ => none

/-- Whether a plain scalar without a tag says that there is nothing. -/
def saysNothing (value : Text) : Bool := value.isEmpty || nullWords.contains value

/-- The number of a plain scalar, or nothing. The tag of nothing forbids a number. -/
def readWord? (d : Document) (n : Node) : Option (Option Nat) :=
  match d.resolve n with
  | .scalar true none value =>
    if saysNothing value then some none else (wordOf? value).map some
  | .scalar true (some tag) value =>
    if tag = nullTag then (if nullWords.contains value then some none else none)
    else (wordOf? value).map some
  | _ => none

/-- The truth value of a plain scalar. -/
def readBool (d : Document) (n : Node) : Option Bool :=
  match d.resolve n with
  | .scalar true _ value => boolWords.lookup value
  | _ => none

def policyNames : List (Text × DuplicatePolicy) :=
  [("last-wins".toList, .lastWins), ("reject".toList, .reject)]

/-- The policy that a scalar names: by its text, or by a tag of its own and nothing else. -/
def readPolicy (d : Document) (n : Node) : Option DuplicatePolicy :=
  match d.resolve n with
  | .scalar plain (some ('!' :: name)) value =>
    if plain && saysNothing value then policyNames.lookup name else none
  | .scalar _ _ value => policyNames.lookup value
  | _ => none

/-- A setting: its name, and how its value changes the settings. -/
structure Setting where
  name : Text
  set : Document → Node → Config → Option Config

def settings : List Setting := [
  ⟨"base_path".toList, fun d n c => do return { c with basePath := ← readText d n }⟩,
  ⟨"template_sets".toList, fun d n c => do return { c with templateSets := ← readTexts d n }⟩,
  ⟨"marker_class".toList, fun d n c => do return { c with markerClass := ← readText d n }⟩,
  ⟨"fetch_timeout_ms".toList, fun d n c => do return { c with fetchTimeout := ← readWord? d n }⟩,
  ⟨"duplicate_policy".toList,
    fun d n c => do return { c with duplicatePolicy := ← readPolicy d n }⟩,
  ⟨"strict_fields".toList, fun d n c => do return { c with strictFields := ← readBool d n }⟩]

/-- Reads the members of the mapping. `seen` holds the names that have been read. -/
def readMembers (d : Document) (seen : List Text) (c : Config) :
    List (Node × Node) → Option Config
  | [] => some c
  | (key, value) :: rest => do
    let name ← readText d key
    let setting ← settings.find? (·.name = name)
    if seen.contains name then none
    else readMembers d (name :: seen) (← setting.set d value c) rest

def ofDocument? (d : Document) : Option Config :=
  match d.resolve d.root with
  | .mapping _ members => readMembers d [] standard members
  | .scalar true _ [] => some standard
  | _ => none

/-- The settings that a text holds; a text that says nothing holds the standard ones. -/
def parse? (s : Text) : Option Config :=
  (Document.parse? s).bind fun
    | none => some standard
    | some d => ofDocument? d

end Explainer.Config
