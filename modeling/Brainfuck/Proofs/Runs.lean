import Brainfuck.Interpreter
import Brainfuck.Proofs.Execution
import Brainfuck.Proofs.Partners
/-!
# How runs of the interpreter end

`ends_iff` and `runsForever_iff` state a run by its steps, without fuel. `Ends.unique`: a run ends in one
way; `ends_or_runsForever`: a run that goes on with any fuel is the only one that does not end.
-/

namespace Brainfuck.Interpreter

/-- The run ends with this result in this state, given fuel enough. -/
def Ends (program : List Instruction) (s : Interpreter) (result : Except Error Unit) (t : Interpreter) : Prop :=
  ∃ fuel, run program fuel s = some (result, t)

/-- No fuel is enough for the run. -/
def RunsForever (program : List Instruction) (s : Interpreter) : Prop :=
  ∀ fuel, run program fuel s = none

/-- So many steps of a program from `pc` on. -/
def steps (program : List Instruction) (partners : Array Nat) : Nat → Nat → Interpreter → Step :=
  Execution.steps (step program.toArray partners)

theorem runFrom_eq (program : Array Instruction) (partners : Array Nat) (fuel pc : Nat) (s : Interpreter) :
    runFrom program partners fuel pc s =
      match Execution.steps (step program partners) fuel pc s with
      | .next _ _ => none
      | .ended ending => some ending := by
  induction fuel generalizing pc s with
  | zero => rfl
  | succ fuel ih =>
    rw [runFrom, Execution.steps]
    cases step program partners pc s with
    | next pc' s' => exact ih pc' s'
    | ended ending => rfl

section Steps
variable {program : List Instruction} {partners : Array Nat} (h : loopPartners program = .ok partners)
include h

theorem run_eq (fuel : Nat) (s : Interpreter) :
    run program fuel s =
      match steps program partners fuel 0 s with
      | .next _ _ => none
      | .ended ending => some ending := by
  rw [run, h]
  exact runFrom_eq _ _ fuel 0 s

theorem ends_iff {s t : Interpreter} {result : Except Error Unit} :
    Ends program s result t ↔ ∃ n, steps program partners n 0 s = .ended (result, t) := by
  refine exists_congr fun n => ?_
  rw [run_eq h]
  cases steps program partners n 0 s <;> simp

theorem runsForever_iff {s : Interpreter} :
    RunsForever program s ↔ ∀ n, ∃ pc t, steps program partners n 0 s = .next pc t := by
  refine forall_congr' fun n => ?_
  rw [run_eq h]
  cases steps program partners n 0 s <;> simp

end Steps

theorem Ends.unique {program : List Instruction} {s t t' : Interpreter} {result result' : Except Error Unit}
    (h : Ends program s result t) (h' : Ends program s result' t') : result = result' ∧ t = t' := by
  cases hp : loopPartners program with
  | error e =>
    obtain ⟨n, hn⟩ := h
    obtain ⟨n', hn'⟩ := h'
    simp only [run, hp, Option.some.injEq, Prod.mk.injEq] at hn hn'
    exact ⟨hn.1.symm.trans hn'.1, hn.2.symm.trans hn'.2⟩
  | ok partners =>
    obtain ⟨n, hn⟩ := (ends_iff hp).1 h
    obtain ⟨n', hn'⟩ := (ends_iff hp).1 h'
    exact Prod.mk.inj (Execution.ended_unique hn hn')

theorem ends_or_runsForever (program : List Instruction) (s : Interpreter) :
    (∃ result t, Ends program s result t) ∨ RunsForever program s := by
  by_cases h : ∃ fuel ending, run program fuel s = some ending
  · obtain ⟨fuel, ⟨result, t⟩, hrun⟩ := h
    exact .inl ⟨result, t, fuel, hrun⟩
  · refine .inr fun fuel => ?_
    cases hrun : run program fuel s with
    | none => rfl
    | some ending => exact absurd ⟨fuel, ending, hrun⟩ h

theorem Ends.not_runsForever {program : List Instruction} {s t : Interpreter} {result : Except Error Unit}
    (h : Ends program s result t) : ¬ RunsForever program s := by
  rintro hr
  obtain ⟨fuel, hrun⟩ := h
  rw [hr fuel] at hrun
  cases hrun

theorem runsForever_iff_not_ends (program : List Instruction) (s : Interpreter) :
    RunsForever program s ↔ ¬ ∃ result t, Ends program s result t := by
  constructor
  · rintro hforever ⟨result, t, h⟩
    exact h.not_runsForever hforever
  · exact fun h => (ends_or_runsForever program s).resolve_left h

/-! ## How a run can end -/

theorem after_eq_next {pc pc' : Nat} {outcome : Except Error Unit × Interpreter} {t : Interpreter}
    (h : after pc outcome = .next pc' t) : pc' = pc + 1 ∧ outcome = (.ok (), t) := by
  obtain ⟨⟨⟩ | ⟨⟩, s'⟩ := outcome <;> cases h
  exact ⟨rfl, rfl⟩

theorem after_eq_ended {pc : Nat} {outcome : Except Error Unit × Interpreter} {result : Except Error Unit}
    {t : Interpreter} (h : after pc outcome = .ended (result, t)) :
    ∃ e, result = .error e ∧ outcome = (.error e, t) := by
  obtain ⟨⟨⟩ | ⟨⟩, s'⟩ := outcome <;> cases h
  exact ⟨_, rfl, rfl⟩

/-- Behind the last instruction the flush decides; before it, an instruction has failed. -/
theorem ended_cases {program : Array Instruction} {partners : Array Nat} {pc : Nat} {s t : Interpreter}
    {result : Except Error Unit} (h : step program partners pc s = .ended (result, t)) :
    (program[pc]? = none ∧ s.flush = (result, t)) ∨ ∃ e, result = .error e ∧
      ((∃ offset, program[pc]? = some (.moveHead offset) ∧
          movedHead s.tape.size s.head offset = .error e ∧ t = s) ∨
        (program[pc]? = some .input ∧ s.readCell = (.error e, t)) ∨
        (program[pc]? = some .output ∧ s.writeCell = (.error e, t))) := by
  rw [step] at h
  split at h
  next hi => exact .inl ⟨hi, by simpa using h⟩
  next => cases h
  next offset hi =>
    obtain ⟨e, rfl, he⟩ := after_eq_ended h
    rw [moveHead] at he
    split at he
    next => cases he
    next e' hm => cases he; exact .inr ⟨e, rfl, .inl ⟨offset, hi, hm, rfl⟩⟩
  next hi =>
    obtain ⟨e, rfl, he⟩ := after_eq_ended h
    exact .inr ⟨e, rfl, .inr (.inl ⟨hi, he⟩)⟩
  next hi =>
    obtain ⟨e, rfl, he⟩ := after_eq_ended h
    exact .inr ⟨e, rfl, .inr (.inr ⟨hi, he⟩)⟩
  next => cases h
  next => cases h

/-! ## Loops -/

/-- Both ends of a loop lead to the same place: behind the loop, or to its body. -/
theorem step_loop {before after : List Instruction} {body : Block} {partners : Array Nat}
    (h : loopPartners (withLoop before body after) = .ok partners) (s : Interpreter) :
    step (withLoop before body after).toArray partners before.length s =
        .next (if s.cell = 0 then before.length + 1 + body.flatten.length + 1 else before.length + 1) s ∧
      step (withLoop before body after).toArray partners (before.length + 1 + body.flatten.length) s =
        .next (if s.cell = 0 then before.length + 1 + body.flatten.length + 1 else before.length + 1) s := by
  obtain ⟨hstart, hfinish⟩ := loopPartners_withLoop h
  simp only [step, List.getElem?_toArray, withLoop_start, withLoop_finish, Array.getD_eq_getD_getElem?, hstart,
    hfinish, Option.getD_some]
  trivial

/-! ## Head moves -/

theorem movedHead_ok {size head new : Nat} {offset : Int} (h : movedHead size head offset = .ok new) :
    (new : Int) = head + offset ∧ new < size := by
  simp only [movedHead] at h
  split at h
  · cases h
  · split at h
    · cases h
    · split at h
      · cases h
      · cases h; omega

/-- All ways in which a move is refused. -/
theorem movedHead_error {size head : Nat} {offset : Int} {e : Error}
    (h : movedHead size head offset = .error e) :
    (e = .headOverflow ∧ greatestPosition < head + offset) ∨ (e = .tapeUnderflow ∧ head + offset < 0) ∨
      (e = .tapeOverflow ∧ size ≤ head + offset) := by
  simp only [movedHead] at h
  split at h
  · cases h; exact .inl ⟨rfl, by omega⟩
  · split at h
    · cases h; exact .inr (.inl ⟨rfl, by omega⟩)
    · split at h
      · cases h; exact .inr (.inr ⟨rfl, by omega⟩)
      · cases h

/-- The run comes, in state `t`, to a move of the head to a position that is refused. -/
def Refuses (program : List Instruction) (s t : Interpreter) (position : Int) : Prop :=
  ∃ partners n pc offset e, loopPartners program = .ok partners ∧
    steps program partners n 0 s = .next pc t ∧ program[pc]? = some (.moveHead offset) ∧
    movedHead t.tape.size t.head offset = .error e ∧ position = t.head + offset

/-! ## Runs from a head on the tape -/

section Results
variable {s t : Interpreter} {e : Error}

theorem io_of_readCell (h : s.readCell = (.error e, t)) : ∃ io, e = .io io := by
  rw [readCell] at h
  split at h
  next => cases h
  next => split at h <;> cases h; exact ⟨_, rfl⟩

theorem io_of_writeCell (h : s.writeCell = (.error e, t)) : ∃ io, e = .io io := by
  unfold writeCell at h
  split at h
  next => dsimp only at h; split at h <;> cases h; exact ⟨_, rfl⟩
  next => cases h

theorem io_of_flush (h : s.flush = (.error e, t)) : ∃ io, e = .io io := by
  unfold flush at h
  split at h
  next => split at h <;> cases h; exact ⟨_, rfl⟩
  next => cases h

theorem size_of_readCell {result : Except Error Unit} (h : s.readCell = (result, t)) :
    t.tape.size = s.tape.size ∧ t.head = s.head := by
  rw [readCell] at h
  split at h
  next => cases h; simp [setCell]
  next => split at h <;> cases h <;> simp [setCell]

theorem size_of_writeCell {result : Except Error Unit} (h : s.writeCell = (result, t)) :
    t.tape.size = s.tape.size ∧ t.head = s.head := by
  unfold writeCell at h
  split at h
  next => dsimp only at h; split at h <;> cases h <;> exact ⟨rfl, rfl⟩
  next => cases h; exact ⟨rfl, rfl⟩

/-- A step that goes on keeps the length of the tape, and the head on it. -/
theorem onTape_of_step {program : Array Instruction} {partners : Array Nat} {pc pc' : Nat}
    (h : step program partners pc s = .next pc' t) (hs : s.head < s.tape.size) :
    t.tape.size = s.tape.size ∧ t.head < s.tape.size := by
  unfold step at h
  split at h
  next => cases h
  next => cases h; simpa [increment] using hs
  next offset _ =>
    have hm := (after_eq_next h).2
    rw [moveHead] at hm
    split at hm
    next head hok => cases hm; exact ⟨rfl, (movedHead_ok hok).2⟩
    next => cases hm
  next => obtain ⟨hsize, hhead⟩ := size_of_readCell (after_eq_next h).2; omega
  next => obtain ⟨hsize, hhead⟩ := size_of_writeCell (after_eq_next h).2; omega
  next => cases h; exact ⟨rfl, hs⟩
  next => cases h; exact ⟨rfl, hs⟩

theorem onTape_of_steps {program : List Instruction} {partners : Array Nat} {n pc pc' : Nat}
    (h : steps program partners n pc s = .next pc' t) (hs : s.head < s.tape.size) :
    t.tape.size = s.tape.size ∧ t.head < s.tape.size := by
  induction n generalizing pc s with
  | zero => cases h; exact ⟨rfl, hs⟩
  | succ n ih =>
    cases hstep : step program.toArray partners pc s with
    | ended => rw [steps, Execution.steps, hstep] at h; cases h
    | next pc₁ s₁ =>
      rw [steps, Execution.steps_succ hstep] at h
      obtain ⟨hsize, hhead⟩ := onTape_of_step hstep hs
      have := ih h (by omega)
      omega

end Results

/-- A run without moves beyond the greatest position succeeds, fails at a stream, or leaves the tape. -/
theorem Ends.result_cases {program : List Instruction} {s t : Interpreter} {result : Except Error Unit}
    (h : Ends program s result t) (hb : Balanced program) (hs : s.head < s.tape.size)
    (hmoves : ∀ offset, .moveHead offset ∈ program → s.tape.size + offset ≤ greatestPosition + 1) :
    result = .ok () ∨ (∃ io, result = .error (.io io)) ∨
      result = .error .tapeUnderflow ∨ result = .error .tapeOverflow := by
  obtain ⟨partners, hp⟩ := exists_loopPartners hb
  obtain ⟨n, hn⟩ := (ends_iff hp).1 h
  obtain ⟨k, pc, u, hk, hlast⟩ := Execution.last_step hn
  obtain ⟨hsize, hhead⟩ := onTape_of_steps hk hs
  rcases ended_cases hlast with ⟨-, hflush⟩ | ⟨e, rfl, ⟨offset, hi, hmove, -⟩ | ⟨-, hread⟩ | ⟨-, hwrite⟩⟩
  · rcases result with e | ⟨⟩
    · obtain ⟨io, rfl⟩ := io_of_flush hflush
      exact .inr (.inl ⟨io, rfl⟩)
    · exact .inl rfl
  · rw [List.getElem?_toArray] at hi
    have hle := hmoves offset (List.mem_of_getElem? hi)
    rcases movedHead_error hmove with ⟨-, hgt⟩ | ⟨rfl, -⟩ | ⟨rfl, -⟩
    · omega
    · exact .inr (.inr (.inl rfl))
    · exact .inr (.inr (.inr rfl))
  · obtain ⟨io, rfl⟩ := io_of_readCell hread
    exact .inr (.inl ⟨io, rfl⟩)
  · obtain ⟨io, rfl⟩ := io_of_writeCell hwrite
    exact .inr (.inl ⟨io, rfl⟩)

end Brainfuck.Interpreter
