import Explainer.Json.Binary64

/-!
# JSON values

Objects are lists of members. Every object that the library builds has its members in the order
of the keys and no key twice; `Members.insert` keeps both, and replaces the value of a key that is
there.
-/

namespace Explainer

/-- A JSON number: an integer between `-2 ^ 63` and `2 ^ 64 - 1`, or a finite float. -/
inductive Number where
  | int (value : Int)
  | float (value : Binary64)
deriving DecidableEq, Repr

namespace Number

def isZero : Number → Bool
  | int i => i == 0
  | float x => x.isZero

def text : Number → Text
  | int i => intText i
  | float x => x.text

end Number

inductive Json where
  | null
  | bool (value : Bool)
  | num (value : Number)
  | str (value : Text)
  | arr (items : List Json)
  | obj (members : List (Text × Json))
deriving Repr

/-- A finite map from texts, as the list of its entries. -/
abbrev Members (α : Type) := List (Text × α)

namespace Members

variable {α : Type}

def find? (key : Text) : Members α → Option α
  | [] => none
  | (k, v) :: rest => if k = key then some v else find? key rest

/-- Sets the value of a key. A key that is there keeps its place; a new one goes before the first
larger key, so that ordered entries stay ordered. -/
def insert (key : Text) (value : α) : Members α → Members α
  | [] => [(key, value)]
  | (k, v) :: rest =>
    if key = k then (key, value) :: rest
    else if key < k then (key, value) :: (k, v) :: rest
    else (k, v) :: insert key value rest

/-- The entries of a list, later ones replacing earlier ones of the same key, ordered by key. -/
def ofList (entries : List (Text × α)) : Members α :=
  entries.foldl (fun m (k, v) => m.insert k v) []

/-- The keys, in the order of the entries. -/
def keys (m : Members α) : List Text := m.map (·.1)

/-- Whether the keys increase strictly. -/
def Ordered (m : Members α) : Prop := m.Pairwise (·.1 < ·.1)

@[simp] theorem find?_nil (key : Text) : find? (α := α) key [] = none := rfl

theorem find?_insert_self (key : Text) (value : α) (m : Members α) :
    find? key (insert key value m) = some value := by
  induction m with
  | nil => simp [insert, find?]
  | cons e rest ih =>
    obtain ⟨k, v⟩ := e
    by_cases h : key = k
    · simp [insert, find?, h]
    · by_cases hlt : key < k
      · simp [insert, find?, h, hlt]
      · have h' : ¬ k = key := fun e => h e.symm
        simp [insert, find?, h, h', hlt, ih]

theorem find?_insert_of_ne {key other : Text} (h : other ≠ key) (value : α) (m : Members α) :
    find? other (insert key value m) = find? other m := by
  induction m with
  | nil =>
    have : ¬ key = other := fun e => h e.symm
    simp [insert, find?, this]
  | cons e rest ih =>
    obtain ⟨k, v⟩ := e
    have hk : ¬ key = other := fun e => h e.symm
    by_cases hkk : key = k
    · subst hkk
      simp [insert, find?, hk]
    · by_cases hlt : key < k
      · simp [insert, find?, hkk, hlt, hk]
      · simp only [insert, hkk, hlt, if_false, find?, ih]

end Members

end Explainer
