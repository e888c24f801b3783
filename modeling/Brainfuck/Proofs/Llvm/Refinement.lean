import Brainfuck.Code.Linear.Machine
import Brainfuck.Proofs.Code
import Brainfuck.Proofs.Llvm.Reading
import Brainfuck.Proofs.Llvm.Rows
import Brainfuck.Proofs.Refinement
/-!
# The LLVM program does what the linear code does

`text_faithful`: read line by line, the text of a program does what its linear code does, as long as the
linear code stays on the tape.

`simulation` is the reason: from machines that agree, in front of the same operation, each step of the linear
machine is matched by the lines of the operation. A branch to a label goes behind the lines of its mark, so
the step of the linear machine over the mark is matched by no line at all.
-/

namespace Brainfuck.Llvm

section Matching
variable {tapeLength : Nat} {program : List Instruction} {code : List Op} {k : Nat} {m m' : Linear.Machine}
  {M M' : Machine}

/-! ## From line to line -/

theorem step_execute {ls : List Line} {pc : Nat} {line : Line} (hline : ls[pc]? = some line)
    (h : M.execute? line = some M') : step ls.toArray pc M = .next (pc + 1) M' := by
  rw [step, List.getElem?_toArray, hline]
  cases line with
  | returnZero | branch | branchIf | block => cases h
  | _ => simp only [h]

theorem steps_row {op : Op} (hk : code[k]? = some op)
    (h : carryOut M (row (listing (code.take k)).nextValue op) = some M') :
    steps (lines code).toArray (row (listing (code.take k)).nextValue op).length (place code k) M =
      .next (place code k + (row (listing (code.take k)).nextValue op).length) M' := by
  obtain ⟨rest, hrest⟩ := lines_split hk
  exact Execution.steps_in_a_row Machine.execute? (fun _ _ _ _ => step_execute) hrest h

/-! ## Matching states -/

/-- The machines agree. The program is in front of the first line of the operation, or behind the lines of a
mark which the linear machine has yet to pass. -/
def Beside (tapeLength : Nat) (code : List Op) (rank k : Nat) (m : Linear.Machine) (line : Nat) (M : Machine) :
    Prop :=
  Agrees m M ∧ m.tape.size = tapeLength ∧
    ((rank = 0 ∧ line = place code k ∧ (listing (code.take k)).terminated = false) ∨
      (rank = 1 ∧ line = place code (k + 1) ∧ ∃ l, code[k]? = some (.mark l)))

/-- Lines of the program match a step to `m'` in front of the operation at `k'`. -/
abbrev Matches (tapeLength : Nat) (code : List Op) (rank k' : Nat) (m' : Linear.Machine) (line : Nat)
    (M : Machine) : Prop :=
  Execution.Matches (step (lines code).toArray) (Beside tapeLength code) (fun _ => True) rank k' m' line M

/-- An operation whose lines only compute. -/
theorem matches_row {op : Op} (hk : code[k]? = some op) (hop : computes op = true)
    (hterminated : (listing (code.take k)).terminated = false)
    (hrow : ∃ M', carryOut M (row (listing (code.take k)).nextValue op) = some M' ∧ Agrees m' M')
    (hsize : m'.tape.size = tapeLength) : Matches tapeLength code 0 (k + 1) m' (place code k) M := by
  obtain ⟨M', hM', hagrees⟩ := hrow
  obtain ⟨j, hj⟩ := row_of_computes hop (listing (code.take k)).nextValue
  have hsteps := steps_row hk hM'
  have hplace := place_succ hk
  simp only [control_of_computes hop, List.length_nil, Nat.add_zero] at hplace
  rw [← hplace, hj] at hsteps
  refine Execution.Matches.of_steps (Nat.succ_pos j) hsteps ⟨hagrees, hsize, .inl ⟨rfl, rfl, ?_⟩⟩
  rw [listing_succ hk, terminated_of_computes hop, hterminated]

theorem matches_mark {l : Label} (hl : Labelled code) (hk : code[k]? = some (.mark l))
    (hterminated : (listing (code.take k)).terminated = false) (hagrees : Agrees m M)
    (hsize : m.tape.size = tapeLength) : Matches tapeLength code 0 (k + 1) m (place code k) M := by
  have hi : (control (listing (code.take k)) (.mark l))[0]? = some (.branch (.label l)) := by
    simp [control, hterminated]
  have hline : (lines code)[place code k]? = some (.branch (.label l)) := getElem?_control hk hi
  have hstep : step (lines code).toArray (place code k) M = .next (place code (k + 1)) M := by
    rw [step, List.getElem?_toArray, hline]
    exact branchTo_label hl.nodup hk
  refine Execution.Matches.of_steps Nat.one_pos (Execution.steps_one hstep) ⟨hagrees, hsize, .inl ⟨rfl, rfl, ?_⟩⟩
  rw [listing_succ hk]
  exact mark_terminated _ l

theorem matches_jump {l : Label} {k' : Nat} (hl : Labelled code) (hk : code[k]? = some (.jump l))
    (hk' : code[k']? = some (.mark l)) (hagrees : Agrees m M) (hsize : m.tape.size = tapeLength) :
    Matches tapeLength code 0 k' m (place code k) M := by
  have hi : (control (listing (code.take k)) (.jump l))[0]? = some (.branch (.label l)) := rfl
  have hline : (lines code)[place code k]? = some (.branch (.label l)) := getElem?_control hk hi
  have hstep : step (lines code).toArray (place code k) M = .next (place code (k' + 1)) M := by
    rw [step, List.getElem?_toArray, hline]
    exact branchTo_label hl.nodup hk'
  exact Execution.Matches.of_steps Nat.one_pos (Execution.steps_one hstep) ⟨hagrees, hsize, .inr ⟨rfl, rfl, l, hk'⟩⟩

/-- The line behind the row of a conditional jump goes to one of two blocks. -/
theorem steps_jumpIfNonzero {l : Label} {b : UInt8} (hk : code[k]? = some (.jumpIfNonzero l))
    (hagrees : Agrees m M) (hb : m.cell? = some b) (hword : m.tape.size < 2 ^ 64) :
    ∃ M', Agrees m M' ∧ steps (lines code).toArray (4 + 1) (place code k) M =
      branchTo (lines code).toArray
        (if b = 0 then .loopEnd (listing (code.take k)).nextBlock else .label l) M' := by
  obtain ⟨M', hM', hagrees', hflag⟩ :=
    jumpIfNonzero_row hagrees hb hword (listing (code.take k)).nextValue l
  have hi : (control (listing (code.take k)) (.jumpIfNonzero l))[0]? =
    some (.branchIf ((listing (code.take k)).nextValue + 3) (.label l)
      (.loopEnd (listing (code.take k)).nextBlock)) := rfl
  have hline := getElem?_control hk hi
  rw [Nat.add_zero] at hline
  refine ⟨M', hagrees', (Execution.steps_add (steps_row hk hM') 1).trans ?_⟩
  have hstep : step (lines code).toArray
      (place code k + (row (listing (code.take k)).nextValue (.jumpIfNonzero l)).length) M' =
      branchTo (lines code).toArray
        (if b = 0 then .loopEnd (listing (code.take k)).nextBlock else .label l) M' := by
    rw [step, List.getElem?_toArray, hline]
    by_cases h0 : b = 0 <;> simp [hflag, h0]
  rw [Execution.steps, hstep]
  cases branchTo (lines code).toArray
    (if b = 0 then .loopEnd (listing (code.take k)).nextBlock else .label l) M' <;> rfl

theorem matches_fallThrough {l : Label} (hl : Labelled code) (hk : code[k]? = some (.jumpIfNonzero l))
    (hagrees : Agrees m M) (hb : m.cell? = some 0) (hsize : m.tape.size = tapeLength)
    (hword : tapeLength < 2 ^ 64) : Matches tapeLength code 0 (k + 1) m (place code k) M := by
  obtain ⟨M', hagrees', hsteps⟩ := steps_jumpIfNonzero hk hagrees hb (hsize ▸ hword)
  rw [if_pos rfl, branchTo_loopEnd hl.nodup hk] at hsteps
  refine Execution.Matches.of_steps (Nat.succ_pos _) hsteps ⟨hagrees', hsize, .inl ⟨rfl, rfl, ?_⟩⟩
  rw [listing_succ hk]
  rfl

theorem matches_jumpBack {l : Label} {k' : Nat} {b : UInt8} (hl : Labelled code)
    (hk : code[k]? = some (.jumpIfNonzero l)) (hk' : code[k']? = some (.mark l)) (hagrees : Agrees m M)
    (hb : m.cell? = some b) (h0 : b ≠ 0) (hsize : m.tape.size = tapeLength) (hword : tapeLength < 2 ^ 64) :
    Matches tapeLength code 0 k' m (place code k) M := by
  obtain ⟨M', hagrees', hsteps⟩ := steps_jumpIfNonzero hk hagrees hb (hsize ▸ hword)
  rw [if_neg h0, branchTo_label hl.nodup hk'] at hsteps
  exact Execution.Matches.of_steps (Nat.succ_pos _) hsteps ⟨hagrees', hsize, .inr ⟨rfl, rfl, l, hk'⟩⟩

/-- The linear machine passes a mark whose lines the program has passed already. -/
theorem matches_passed_mark {l : Label} (hk : code[k]? = some (.mark l)) (hagrees : Agrees m M)
    (hsize : m.tape.size = tapeLength) : Matches tapeLength code 1 (k + 1) m (place code (k + 1)) M := by
  refine Execution.Matches.of_still Nat.zero_lt_one ⟨hagrees, hsize, .inl ⟨rfl, rfl, ?_⟩⟩
  rw [listing_succ hk]
  exact mark_terminated _ l

end Matching

/-! ## The simulation -/

section Simulation
variable {tapeLength : Nat} {program : List Instruction} {code : List Op} {input : List UInt8}

theorem simulation (hcode : IsCode tapeLength program code) (hword : tapeLength < 2 ^ 64) :
    Execution.Simulation (Linear.step code.toArray) (step (lines code).toArray) (Beside tapeLength code)
      (fun _ => True) := by
  have hl := hcode.labelled
  constructor
  intro rank k k' line m m' M hR hstep
  obtain ⟨hagrees, hsize, ⟨rfl, rfl, hterminated⟩ | ⟨rfl, rfl, l, hmark⟩⟩ := hR
  · have ht := Linear.transition_of_step hstep
    have hsize' := Linear.tape_size_of_transition hcode hsize ht
    have hword' : m.tape.size < 2 ^ 64 := by omega
    cases ht with
    | allocate hk =>
      exact matches_row hk rfl hterminated
        (allocate_row hagrees.input hagrees.exchanges _ _) hsize'
    | increment hk hb =>
      exact matches_row hk rfl hterminated (increment_row hagrees hb hword' _ _) hsize'
    | moveHead hk =>
      exact matches_row hk rfl hterminated (moveHead_row hagrees _ _) hsize'
    | input hk hb =>
      exact matches_row hk rfl hterminated (input_row hagrees hb hword' _) hsize'
    | output hk hb =>
      exact matches_row hk rfl hterminated (output_row hagrees hb hword' _) hsize'
    | jump hk hk' => exact matches_jump hl hk hk' hagrees hsize
    | mark hk => exact matches_mark hl hk hterminated hagrees hsize
    | fallThrough hk hb => exact matches_fallThrough hl hk hagrees hb hsize hword
    | jumpBack hk hb h0 hk' => exact matches_jumpBack hl hk hk' hagrees hb h0 hsize hword
  · -- The branch that came here has passed the lines of the mark.
    rw [Linear.step_mark hmark] at hstep
    cases hstep
    exact matches_passed_mark hmark hagrees hsize

/-- At the end of the code the tape is freed and the program returns. -/
theorem returns_of_halt {rank k line : Nat} {m m' : Linear.Machine} {M : Machine}
    (hR : Beside tapeLength code rank k m line M) (hstep : Linear.step code.toArray k m = .ended (.halted m')) :
    ∃ j M', steps (lines code).toArray j line M = .ended (.halted M') ∧ Agrees m' M' := by
  obtain ⟨hk, rfl⟩ := Linear.halt_of_step hstep
  obtain ⟨hagrees, -, ⟨-, rfl, -⟩ | ⟨-, -, l, hmark⟩⟩ := hR
  · have hline := getElem?_control hk (show (control (listing (code.take k)) .halt)[0]? = some .returnZero from rfl)
    have hstep : step (lines code).toArray (place code k + 1) M = .ended (.halted M) := by
      rw [step, List.getElem?_toArray]
      simp only [show (lines code)[place code k + 1]? = some .returnZero from hline]
    have hrow := steps_row hk (halt_row hagrees _)
    exact ⟨1 + 1, M, (Execution.steps_add hrow 1).trans (Execution.steps_one_ended hstep), hagrees⟩
  · rw [hk] at hmark
    cases hmark

theorem faithful (hcode : IsCode tapeLength program code) (hword : tapeLength < 2 ^ 64)
    (hs : Linear.StaysOnTape tapeLength code.toArray input) :
    Execution.Faithful (Linear.step code.toArray) (step (lines code).toArray) Agrees
      (.start input) (.start input) := by
  have hfirst := hcode.first
  obtain ⟨M, hM, hagrees⟩ := allocate_row (m := Linear.Machine.start input) (M := .start input) rfl rfl
    (listing (code.take 0)).nextValue tapeLength
  have hrow := steps_row hfirst hM
  have hbeside : Beside tapeLength code 0 1 (Linear.allocated tapeLength input) (place code 1) M := by
    refine ⟨hagrees, Array.size_replicate, .inl ⟨rfl, rfl, ?_⟩⟩
    rw [listing_succ hfirst, terminated_of_computes rfl]
    rfl
  exact (simulation hcode hword).faithful (fun hR => hR.1) returns_of_halt (Linear.step_allocate hcode)
    ((place_succ hfirst).symm ▸ hrow) hbeside (Linear.not_stuck hcode hs)

end Simulation

/-! ## The text -/

theorem text_faithful (program : List Instruction) (h : Balanced program) (tapeLength : Nat)
    (hN : 0 < tapeLength) (hword : tapeLength < 2 ^ 64) (input : List UInt8) :
    ∃ code written ls, (lower tapeLength program).result = .ok code ∧
      (Code.ofProgram .llvm tapeLength program).result = .ok ⟨.llvm, written⟩ ∧ read? written = some ls ∧
      (Linear.StaysOnTape tapeLength code.toArray input →
        Execution.Faithful (Linear.step code.toArray) (step ls.toArray) Agrees (.start input) (.start input)) := by
  obtain ⟨b, rfl⟩ := (balanced_iff_flatten program).1 h
  obtain ⟨code, hlower, hcode⟩ := lower_flatten hN b
  exact ⟨code, text code, lines code, hlower, Code.ofProgram_result hlower .llvm, read?_text code,
    faithful hcode hword⟩

theorem text_faithful_copyInput :
    Balanced copyInput ∧ ∃ code written ls, (lower 3 copyInput).result = .ok code ∧
      (Code.ofProgram .llvm 3 copyInput).result = .ok ⟨.llvm, written⟩ ∧ read? written = some ls ∧
      Linear.StaysOnTape 3 code.toArray [104, 105] ∧
      Execution.Faithful (Linear.step code.toArray) (step ls.toArray) Agrees (.start [104, 105])
        (.start [104, 105]) := by
  have hb : Balanced copyInput := by decide
  obtain ⟨code, written, ls, hlower, hwritten, hread, hfaithful⟩ :=
    text_faithful copyInput hb 3 (by decide) (by decide) [104, 105]
  have hstays : Linear.StaysOnTape 3 code.toArray [104, 105] :=
    (keepsHead_of_ends hb (by decide) hlower ⟨20, rfl⟩).stays
  exact ⟨hb, code, written, ls, hlower, hwritten, hread, hstays, hfaithful hstays⟩

end Brainfuck.Llvm
