import Explainer.Regex.Program

/-!
# Programs are closed

Every instruction of a program that stands for an expression leads to
instructions of the program. An expression is added to a closed program in
front of one of its instructions, and the result is closed again; this is a
property of adders (`Keeps`) that each way of putting them together preserves.
-/

namespace Explainer.Regex

/-- The instructions that one leads to. -/
def Instruction.targets : Instruction → List Nat
  | .char _ j | .look _ _ j | .save _ j => [j]
  | .split j k => [j, k]
  | .accept => []

namespace Program

/-- No way leads out of the program. -/
structure Closed (p : Program) : Prop where
  start_lt : p.start < p.code.size
  targets_lt : ∀ i ∈ p.code, ∀ j ∈ i.targets, j < p.code.size

/-- What is added to a closed program leaves it closed, and nothing is taken
away from it. -/
def Keeps (adder : Adder) : Prop :=
  ∀ code next, Closed ⟨code, next⟩ →
    Closed ⟨(adder code next).1, (adder code next).2⟩ ∧
      code.size ≤ (adder code next).1.size

variable {code : Array Instruction} {next : Nat} {greedy : Bool} {a b : Adder}

theorem Closed.add {i : Instruction} (h : Closed ⟨code, next⟩)
    (hi : ∀ j ∈ i.targets, j < code.size) :
    Closed ⟨(add code i).1, (add code i).2⟩ ∧ code.size ≤ (add code i).1.size := by
  have hsize : (code.push i).size = code.size + 1 := Array.size_push i
  refine ⟨⟨?_, ?_⟩, ?_⟩
  · show code.size < (code.push i).size
    omega
  · intro i' hi' j hj
    show j < (code.push i).size
    rcases Array.mem_push.mp hi' with hold | rfl
    · have := h.targets_lt i' hold j hj
      show j < (code.push i).size
      simp only [] at this
      omega
    · have := hi j hj
      omega
  · show code.size ≤ (code.push i).size
    omega

theorem mem_targets_choice {body j : Nat} (h : j ∈ (choice greedy body next).targets) :
    j = body ∨ j = next := by
  cases greedy <;> simpa [choice, Instruction.targets, or_comm] using h

theorem keeps_id : Keeps fun code next => (code, next) :=
  fun _ _ h => ⟨h, Nat.le_refl _⟩

theorem keeps_single {i : Nat → Instruction} (hi : ∀ next, (i next).targets = [next]) :
    Keeps fun code next => add code (i next) := by
  intro code next h
  refine h.add fun j hj => ?_
  rw [hi, List.mem_singleton] at hj
  exact hj ▸ h.start_lt

theorem Keeps.comp (ha : Keeps a) (hb : Keeps b) :
    Keeps fun code next => a (b code next).1 (b code next).2 := by
  intro code next h
  obtain ⟨hmiddle, hle⟩ := hb code next h
  obtain ⟨hfirst, hle'⟩ := ha _ _ hmiddle
  exact ⟨hfirst, Nat.le_trans hle hle'⟩

theorem Keeps.copies (ha : Keeps a) : ∀ n, Keeps (copies a n) := by
  intro n
  induction n with
  | zero => exact keeps_id
  | succ n ih => exact ih.comp ha

/-- A choice in front of what has been added leads there or past it. -/
theorem Keeps.choice (ha : Keeps a) :
    Keeps fun code next =>
      add (a code next).1 (choice greedy (a code next).2 next) := by
  intro code next h
  obtain ⟨hbody, hle⟩ := ha code next h
  obtain ⟨hadd, hle'⟩ := hbody.add (i := Program.choice greedy (a code next).2 next)
    fun j hj => by
      rcases mem_targets_choice hj with rfl | rfl
      · exact hbody.start_lt
      · exact Nat.lt_of_lt_of_le h.start_lt hle
  exact ⟨hadd, Nat.le_trans hle hle'⟩

theorem Keeps.upTo (ha : Keeps a) : ∀ n, Keeps (upTo greedy a n) := by
  intro n
  induction n with
  | zero => exact keeps_id
  | succ n ih => exact (ha.comp ih).choice

theorem Keeps.oneOrMore (ha : Keeps a) : Keeps (oneOrMore greedy a) := by
  intro code next h
  obtain ⟨hagain, hle⟩ := h.add (i := .accept) (fun j hj => absurd hj List.not_mem_nil)
  obtain ⟨hbody, hle'⟩ := ha _ _ hagain
  have hsize : (Program.oneOrMore greedy a code next).1.size
      = (a (code.push .accept) code.size).1.size := Array.size_setIfInBounds
  have hle := Nat.le_trans hle hle'
  refine ⟨⟨Nat.lt_of_lt_of_eq hbody.start_lt hsize.symm, fun i hi j hj => ?_⟩,
    Nat.le_trans hle (Nat.le_of_eq hsize.symm)⟩
  refine Nat.lt_of_lt_of_eq ?_ hsize.symm
  rcases Array.mem_or_eq_of_mem_setIfInBounds hi with hold | rfl
  · exact hbody.targets_lt i hold j hj
  · rcases mem_targets_choice hj with rfl | rfl
    · exact hbody.start_lt
    · exact Nat.lt_of_lt_of_le h.start_lt hle

theorem Keeps.anyNumber (ha : Keeps a) : Keeps (anyNumber greedy a) :=
  ha.oneOrMore.choice

theorem keeps_adder : ∀ r : Regex, Keeps (adder r) := by
  intro r
  induction r with
  | empty => exact keeps_id
  | char set => exact keeps_single fun _ => rfl
  | look l w => exact keeps_single fun _ => rfl
  | seq a b iha ihb => exact iha.comp ihb
  | alt a b iha ihb =>
      intro code next h
      obtain ⟨hfirst, hle⟩ := iha code next h
      obtain ⟨hsecond, hle'⟩ := ihb (adder a code next).1 next
        ⟨Nat.lt_of_lt_of_le h.start_lt hle, hfirst.targets_lt⟩
      obtain ⟨hadd, hle''⟩ := hsecond.add
        (i := .split (adder a code next).2 (adder b (adder a code next).1 next).2)
        fun j hj => by
          simp only [Instruction.targets, List.mem_cons, List.not_mem_nil, or_false] at hj
          rcases hj with rfl | rfl
          · exact Nat.lt_of_lt_of_le hfirst.start_lt hle'
          · exact hsecond.start_lt
      exact ⟨hadd, Nat.le_trans hle (Nat.le_trans hle' hle'')⟩
  | many least most greedy body ih =>
      cases most with
      | some most => exact (ih.copies least).comp (ih.upTo (most - least))
      | none =>
          cases least with
          | zero => exact ih.anyNumber
          | succ least => exact (ih.copies least).comp ih.oneOrMore
  | group n body ih =>
      have hopen : Keeps fun code next => add code (.save (2 * n) next) :=
        keeps_single fun _ => rfl
      have hclose : Keeps fun code next => add code (.save (2 * n + 1) next) :=
        keeps_single fun _ => rfl
      exact hopen.comp (ih.comp hclose)

/-- The program of an expression is closed. -/
theorem closed_ofRegex (r : Regex) : (ofRegex r).Closed := by
  have haccept : Closed ⟨#[.accept], 0⟩ := by
    refine ⟨Nat.one_pos, fun i hi j hj => ?_⟩
    rw [List.mem_toArray, List.mem_singleton] at hi
    rw [hi] at hj
    exact absurd hj List.not_mem_nil
  exact (keeps_adder r _ _ haccept).1

end Program

end Explainer.Regex
