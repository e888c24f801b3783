import Brainfuck.Code.Linear.Machine
import Brainfuck.Proofs.Execution
import Brainfuck.Proofs.Lowering
/-!
# Runs of linear code

`step_jump`, `step_jumpIfNonzero`: jumps arrive at the mark of their label. `tape_size_of_steps`: the tape
keeps the length it was made with. `not_stuck`: a run that stays on its tape does not get stuck.
-/

namespace Brainfuck.Linear

variable {code : List Op} {pc : Nat} {m : Machine}

/-! ## Cells -/

theorem cell?_eq_some_iff {b : UInt8} :
    m.cell? = some b ↔ 0 ≤ m.head ∧ m.tape[m.head.toNat]? = some b := by
  unfold Machine.cell?
  split
  · simp only [reduceCtorEq, false_iff, not_and]; omega
  · simp only [iff_and_self]; omega

theorem exists_cell (h0 : 0 ≤ m.head) (h : m.head < m.tape.size) :
    m.cell? = some (m.tape.getD m.head.toNat 0) := by
  rw [cell?_eq_some_iff, Array.getD_eq_getD_getElem?, Array.getElem?_eq_getElem (by omega)]
  exact ⟨h0, rfl⟩

theorem head_lt_of_cell {b : UInt8} (h : m.cell? = some b) : 0 ≤ m.head ∧ m.head < m.tape.size := by
  obtain ⟨h0, hb⟩ := cell?_eq_some_iff.1 h
  obtain ⟨hlt, -⟩ := Array.getElem?_eq_some_iff.1 hb
  omega

/-! ## Jumps -/

theorem position?_eq (hl : Labelled code) {l : Label} {k : Nat} (hk : code[k]? = some (.mark l)) :
    position? code.toArray l = some k := by
  rw [position?, List.findIdx?_toArray]
  exact findIdx?_of_nodup Op.mark? hl.nodup hk rfl

theorem jumpTo_eq (hl : Labelled code) {l : Label} {k : Nat} (hk : code[k]? = some (.mark l)) :
    jumpTo code.toArray l m = .next k m := by
  rw [jumpTo, position?_eq hl hk]

theorem step_jump (hl : Labelled code) {l : Label} {k : Nat} (h : code[pc]? = some (.jump l))
    (hk : code[k]? = some (.mark l)) : step code.toArray pc m = .next k m := by
  simp only [step, List.getElem?_toArray, h]
  exact jumpTo_eq hl hk

theorem step_mark {l : Label} (h : code[pc]? = some (.mark l)) :
    step code.toArray pc m = .next (pc + 1) m := by
  simp only [step, List.getElem?_toArray, h]

theorem step_jumpIfNonzero (hl : Labelled code) {l : Label} {k : Nat} {b : UInt8}
    (h : code[pc]? = some (.jumpIfNonzero l)) (hk : code[k]? = some (.mark l)) (hb : m.cell? = some b) :
    step code.toArray pc m = .next (if b = 0 then pc + 1 else k) m := by
  simp only [step, List.getElem?_toArray, h, onCell, hb]
  split
  · rfl
  · exact jumpTo_eq hl hk

/-! ## Steps that go on -/

/-- All that a step which does not end the run can do. -/
inductive Transition (code : List Op) (pc : Nat) (m : Machine) : Nat → Machine → Prop
  | allocate {n} : code[pc]? = some (.allocate n) →
      Transition code pc m (pc + 1) { m with tape := Array.replicate n 0, head := 0 }
  | increment {amount b} : code[pc]? = some (.increment amount) → m.cell? = some b →
      Transition code pc m (pc + 1) (m.setCell (b + amount))
  | moveHead {offset} : code[pc]? = some (.moveHead offset) →
      Transition code pc m (pc + 1) { m with head := m.head + offset }
  | input {b} : code[pc]? = some .input → m.cell? = some b → Transition code pc m (pc + 1) m.readCell
  | output {b} : code[pc]? = some .output → m.cell? = some b → Transition code pc m (pc + 1) (m.writeByte b)
  | jump {l k} : code[pc]? = some (.jump l) → code[k]? = some (.mark l) → Transition code pc m k m
  | mark {l} : code[pc]? = some (.mark l) → Transition code pc m (pc + 1) m
  | fallThrough {l} : code[pc]? = some (.jumpIfNonzero l) → m.cell? = some 0 → Transition code pc m (pc + 1) m
  | jumpBack {l k b} : code[pc]? = some (.jumpIfNonzero l) → m.cell? = some b → b ≠ 0 →
      code[k]? = some (.mark l) → Transition code pc m k m

/-- Why a run cannot go on: there is no operation, no cell for it, or no mark to jump to. -/
def Blocked (code : List Op) (pc : Nat) (m : Machine) : Prop :=
  code[pc]? = none ∨ ∃ op, code[pc]? = some op ∧
    ((usesCell op = true ∧ m.cell? = none) ∨ ∃ l, op.target? = some l ∧ l ∉ marks code)

theorem jumpTo_cases (code : List Op) (l : Label) (m : Machine) :
    (∃ k, jumpTo code.toArray l m = .next k m ∧ code[k]? = some (.mark l)) ∨
      (jumpTo code.toArray l m = .ended .stuck ∧ l ∉ marks code) := by
  simp only [jumpTo, position?, List.findIdx?_toArray]
  cases hk : code.findIdx? (fun op => op = .mark l) with
  | some k =>
    obtain ⟨hlt, hp, -⟩ := List.findIdx?_eq_some_iff_getElem.1 hk
    exact .inl ⟨k, rfl, List.getElem?_eq_some_iff.2 ⟨hlt, by simpa using hp⟩⟩
  | none =>
    refine .inr ⟨rfl, fun hl => ?_⟩
    obtain ⟨op, hop, hm⟩ := List.mem_filterMap.1 hl
    have hne := List.findIdx?_eq_none_iff.1 hk op hop
    cases op <;> cases hm
    simp at hne

/-- A step goes on by a transition, or halts at the end of the code, or is blocked. -/
theorem step_cases (code : List Op) (pc : Nat) (m : Machine) :
    (∃ pc' m', step code.toArray pc m = .next pc' m' ∧ Transition code pc m pc' m') ∨
      (step code.toArray pc m = .ended (.halted m) ∧ code[pc]? = some .halt) ∨
      (step code.toArray pc m = .ended .stuck ∧ Blocked code pc m) := by
  simp only [step, List.getElem?_toArray]
  cases hop : code[pc]? with
  | none => exact .inr (.inr ⟨rfl, .inl hop⟩)
  | some op =>
    -- What looks at the cell is blocked off the tape, and a jump where its label is not marked.
    have noCell (hu : usesCell op = true) (hc : m.cell? = none) : Blocked code pc m :=
      .inr ⟨op, hop, .inl ⟨hu, hc⟩⟩
    have noMark {l : Label} (ht : op.target? = some l) (hl : l ∉ marks code) : Blocked code pc m :=
      .inr ⟨op, hop, .inr ⟨l, ht, hl⟩⟩
    cases op with
    | allocate n => exact .inl ⟨_, _, rfl, .allocate hop⟩
    | moveHead offset => exact .inl ⟨_, _, rfl, .moveHead hop⟩
    | mark l => exact .inl ⟨_, _, rfl, .mark hop⟩
    | halt => exact .inr (.inl ⟨rfl, rfl⟩)
    | increment amount =>
      cases hb : m.cell? with
      | none => exact .inr (.inr ⟨by simp only [onCell, hb], noCell rfl hb⟩)
      | some b => exact .inl ⟨_, _, by simp only [onCell, hb], .increment hop hb⟩
    | input =>
      cases hb : m.cell? with
      | none => exact .inr (.inr ⟨by simp only [onCell, hb], noCell rfl hb⟩)
      | some b => exact .inl ⟨_, _, by simp only [onCell, hb], .input hop hb⟩
    | output =>
      cases hb : m.cell? with
      | none => exact .inr (.inr ⟨by simp only [onCell, hb], noCell rfl hb⟩)
      | some b => exact .inl ⟨_, _, by simp only [onCell, hb], .output hop hb⟩
    | jump l =>
      rcases jumpTo_cases code l m with ⟨k, hj, hk⟩ | ⟨hj, hl⟩
      · exact .inl ⟨k, m, hj, .jump hop hk⟩
      · exact .inr (.inr ⟨hj, noMark rfl hl⟩)
    | jumpIfNonzero l =>
      cases hb : m.cell? with
      | none => exact .inr (.inr ⟨by simp only [onCell, hb], noCell rfl hb⟩)
      | some b =>
        simp only [onCell, hb]
        by_cases h0 : b = 0
        · exact .inl ⟨_, _, if_pos h0, .fallThrough hop (by rw [hb, h0])⟩
        · rw [if_neg h0]
          rcases jumpTo_cases code l m with ⟨k, hj, hk⟩ | ⟨hj, hl⟩
          · exact .inl ⟨k, m, hj, .jumpBack hop hb h0 hk⟩
          · exact .inr (.inr ⟨hj, noMark rfl hl⟩)

theorem transition_of_step {pc' : Nat} {m' : Machine} (h : step code.toArray pc m = .next pc' m') :
    Transition code pc m pc' m' := by
  rcases step_cases code pc m with ⟨_, _, e, ht⟩ | ⟨e, -⟩ | ⟨e, -⟩
  · rw [h] at e; cases e; exact ht
  · rw [h] at e; cases e
  · rw [h] at e; cases e

theorem halt_of_step {m' : Machine} (h : step code.toArray pc m = .ended (.halted m')) :
    code[pc]? = some .halt ∧ m' = m := by
  rcases step_cases code pc m with ⟨_, _, e, -⟩ | ⟨e, hop⟩ | ⟨e, -⟩
  · rw [h] at e; cases e
  · rw [h] at e; cases e; exact ⟨hop, rfl⟩
  · rw [h] at e; cases e

theorem blocked_of_step (h : step code.toArray pc m = .ended .stuck) : Blocked code pc m := by
  rcases step_cases code pc m with ⟨_, _, e, -⟩ | ⟨e, -⟩ | ⟨-, hb⟩
  · rw [h] at e; cases e
  · rw [h] at e; cases e
  · exact hb

/-! ## The tape keeps its length -/

variable {tapeLength : Nat} {program : List Instruction} {input : List UInt8}

/-- The machine with its tape, in front of the code of the program. -/
def allocated (tapeLength : Nat) (input : List UInt8) : Machine :=
  { Machine.start input with tape := Array.replicate tapeLength 0 }

theorem step_allocate (h : IsCode tapeLength program code) :
    step code.toArray 0 (.start input) = .next 1 (allocated tapeLength input) := by
  simp only [step, List.getElem?_toArray, h.first]
  rfl

theorem tape_size_of_transition (h : IsCode tapeLength program code) (ht : m.tape.size = tapeLength)
    {pc' : Nat} {m' : Machine} (hs : Transition code pc m pc' m') : m'.tape.size = tapeLength := by
  cases hs with
  | allocate hop =>
    obtain rfl := h.length_of_allocate (List.mem_of_getElem? hop)
    simp
  | increment => simpa [Machine.setCell] using ht
  | input => simpa [Machine.readCell, Machine.setCell] using ht
  | moveHead | output | jump | mark | fallThrough | jumpBack => exact ht

/-- What transitions keep holds at the end of a run of them. -/
theorem steps_keep {p : Nat → Machine → Prop}
    (hp : ∀ {pc pc' m m'}, p pc m → Transition code pc m pc' m' → p pc' m') {n k : Nat} {t : Machine}
    (h : p pc m) (hn : steps code.toArray n pc m = .next k t) : p k t := by
  induction n generalizing pc m with
  | zero => cases hn; exact h
  | succ n ih =>
    cases e : step code.toArray pc m with
    | ended => rw [steps, Execution.steps, e] at hn; cases hn
    | next pc' m' =>
      rw [steps, Execution.steps_succ e] at hn
      exact ih (hp h (transition_of_step e)) hn

theorem steps_from_allocated (h : IsCode tapeLength program code) (n : Nat) :
    steps code.toArray (n + 1) 0 (.start input) = steps code.toArray n 1 (allocated tapeLength input) :=
  Execution.steps_succ (step_allocate h) n

theorem tape_size_of_steps (h : IsCode tapeLength program code) {n k : Nat}
    (hn : steps code.toArray (n + 1) 0 (.start input) = .next k m) : m.tape.size = tapeLength := by
  rw [steps_from_allocated h] at hn
  exact steps_keep (fun ht hs => tape_size_of_transition h ht hs) (by simp [allocated]) hn

/-! ## Runs that stay on the tape -/

/-- A head that is never off the tape is on it when its cell is looked at. -/
theorem KeepsHead.stays
    (h : KeepsHead (fun head => 0 ≤ head ∧ head < tapeLength) code.toArray input) :
    StaysOnTape tapeLength code.toArray input :=
  fun n k m _ hn _ _ => h n k m hn

/-- A cell is looked at only behind the allocation, when the tape has its length. -/
theorem tape_size_of_usesCell (h : IsCode tapeLength program code) {n : Nat} {op : Op}
    (hn : steps code.toArray n 0 (.start input) = .next pc m) (hop : code[pc]? = some op)
    (hu : usesCell op = true) : m.tape.size = tapeLength := by
  cases n with
  | zero =>
    cases hn
    rw [h.first] at hop
    cases hop
    cases hu
  | succ n => exact tape_size_of_steps h hn

theorem in_code_of_steps (h : IsCode tapeLength program code) {n : Nat}
    (hn : steps code.toArray n 0 (.start input) = .next pc m) : pc < code.length := by
  refine steps_keep (p := fun pc _ => pc < code.length) (fun {pc pc' m m'} hpc hs => ?_) ?_ hn
  · -- The last operation ends the run, so every other one has a successor.
    have hlast : code[pc]? ≠ some .halt → pc + 1 < code.length := fun hne => by
      rw [h.length_eq] at hpc ⊢
      by_contra hge
      exact hne (by rw [show pc = 1 + codeLength program by omega]; exact h.last)
    cases hs with
    | jump _ hk | jumpBack _ _ _ hk => exact (List.getElem?_eq_some_iff.1 hk).1
    | allocate hop | increment hop | moveHead hop | input hop | output hop | mark hop | fallThrough hop =>
      exact hlast (by rw [hop]; simp)
  · rw [h.length_eq]; omega

theorem not_stuck (h : IsCode tapeLength program code) (hs : StaysOnTape tapeLength code.toArray input)
    (n : Nat) : steps code.toArray n 0 (.start input) ≠ .ended .stuck := by
  intro hn
  obtain ⟨i, k, t, hi, hlast⟩ := Execution.last_step hn
  rcases blocked_of_step hlast with hnone | ⟨op, hop, ⟨hu, hc⟩ | ⟨l, hl, hm⟩⟩
  · have := in_code_of_steps h hi
    rw [List.getElem?_eq_none_iff] at hnone
    omega
  · obtain ⟨h0, hlt⟩ := hs i k t op hi (by rw [List.getElem?_toArray, hop]) hu
    rw [← tape_size_of_usesCell h hi hop hu] at hlt
    rw [exists_cell h0 hlt] at hc
    cases hc
  · exact hm (h.labelled.marked l (List.mem_filterMap.2 ⟨op, List.mem_of_getElem? hop, hl⟩))

end Brainfuck.Linear
