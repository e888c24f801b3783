import Brainfuck.Proofs.Failure
import Brainfuck.Proofs.Optimisation
import Brainfuck.Proofs.Unnoticed
/-!
# A longer tape

`run_longerTape`: a run that does not overflow its tape does the same on a longer one, and leaves the cells behind the
tape alone. A run that overflows has written a beginning of what is written on the longer tape.
-/

namespace Brainfuck.Interpreter

/-- The interpreter with more cells behind its tape. -/
def withCells (cells : Array UInt8) (s : Interpreter) : Interpreter := { s with tape := s.tape ++ cells }

/-- The state that a step, or a number of them, leaves behind. -/
def leftBy : Step → Interpreter
  | .next _ t | .ended (_, t) => t

/-- What the output holds so many steps after the start of a run, or when the run has ended. -/
def writtenBy (program : List Instruction) (n : Nat) (s : Interpreter) : List UInt8 :=
  match loopPartners program with
  | .error _ => s.written
  | .ok partners => (leftBy (steps program partners n 0 s)).written

/-! ## Instructions on a longer tape -/

section Instructions
variable {cells : Array UInt8} {s t : Interpreter} {result : Except Error Unit} (hs : s.head < s.tape.size)
include hs

theorem cell_withCells : (s.withCells cells).cell = s.cell := by
  simp only [cell, withCells, Array.getD_eq_getD_getElem?, Array.getElem?_append_left hs]

theorem setCell_withCells (b : UInt8) : (s.withCells cells).setCell b = (s.setCell b).withCells cells := by
  obtain ⟨tape, head, input, output⟩ := s
  simp only [setCell, withCells, Array.setIfInBounds_append, if_pos hs]

theorem increment_withCells (amount : Int) :
    (s.withCells cells).increment amount = (s.increment amount).withCells cells := by
  have hcell : (s.withCells cells).cell = s.cell := cell_withCells hs
  have hset := @setCell_withCells cells s hs (s.cell + UInt8.ofInt amount)
  have e (u : Interpreter) : u.increment amount = u.setCell (u.cell + UInt8.ofInt amount) := rfl
  rw [e, e, hcell, hset]

theorem readCell_withCells (h : s.readCell = (result, t)) :
    (s.withCells cells).readCell = (result, t.withCells cells) := by
  rw [readCell_eq] at h ⊢
  have hinput : (s.withCells cells).input = s.input := rfl
  rw [hinput]
  split at h
  · cases h
    rw [setCell_withCells hs]
  next reader hreader =>
    split at h
    · cases h
      rw [setCell_withCells hs]
      rfl
    · cases h
      rfl

theorem writeCell_withCells (h : s.writeCell = (result, t)) :
    (s.withCells cells).writeCell = (result, t.withCells cells) := by
  rw [writeCell_eq] at h ⊢
  have houtput : (s.withCells cells).output = s.output := rfl
  rw [houtput, cell_withCells hs]
  split at h
  · cases h
    rfl
  next writer hwriter =>
    split at h
    · cases h
      rfl
    · cases h
      rfl

omit hs in
theorem flush_withCells (h : s.flush = (result, t)) : (s.withCells cells).flush = (result, t.withCells cells) := by
  rw [flush_eq] at h ⊢
  have houtput : (s.withCells cells).output = s.output := rfl
  rw [houtput]
  split at h
  · cases h
    rfl
  · cases h
    rfl

omit hs in
/-- Only a move beyond the shorter tape comes out differently. -/
theorem moveHead_withCells {offset : Int} (hresult : result ≠ .error .tapeOverflow)
    (h : s.moveHead offset = (result, t)) : (s.withCells cells).moveHead offset = (result, t.withCells cells) := by
  rw [moveHead_eq] at h ⊢
  have hhead : (s.withCells cells).head = s.head := rfl
  have hsize : (s.withCells cells).tape.size = s.tape.size + cells.size := Array.size_append
  rw [hhead, hsize]
  split_ifs at h with hgreat hlow hhigh
  · cases h
    rw [if_pos hgreat]
  · cases h
    rw [if_neg hgreat, if_pos hlow]
  · cases h
    exact absurd rfl hresult
  · cases h
    rw [if_neg hgreat, if_neg hlow, if_neg (by omega)]
    rfl

end Instructions

theorem unnoticed_withCells (cells : Array UInt8) :
    Unnoticed (withCells cells) (fun s => s.head < s.tape.size) (· ≠ .error .tapeOverflow) where
  carries_ok := by simp
  safe hs hstep := by
    obtain ⟨hsize, hhead⟩ := onTape_of_step hstep hs
    omega
  cell hs := cell_withCells hs
  increment hs := increment_withCells hs _
  moveHead _ hresult h := moveHead_withCells hresult h
  readCell hs _ h := readCell_withCells hs h
  writeCell hs _ h := writeCell_withCells hs h
  flush _ _ h := flush_withCells h

/-! ## What has been written stays written -/

section Written
variable {program : List Instruction} {partners : Array Nat} {n : Nat} {s t : Interpreter}
  {result : Except Error Unit}

theorem leftBy_after (pc : Nat) (outcome : Except Error Unit × Interpreter) :
    leftBy (after pc outcome) = outcome.2 := by
  obtain ⟨_ | ⟨⟩, t⟩ := outcome <;> rfl

theorem written_of_step (program : Array Instruction) (partners : Array Nat) (pc : Nat) (s : Interpreter) :
    s.written <+: (leftBy (step program partners pc s)).written := by
  unfold step
  split
  · exact (written_flush rfl : s.flush.2.written = s.written) ▸ List.prefix_refl _
  · exact List.prefix_refl _
  · rw [leftBy_after]
    exact (written_moveHead rfl : (s.moveHead _).2.written = s.written) ▸ List.prefix_refl _
  · rw [leftBy_after]
    exact (written_readCell rfl : s.readCell.2.written = s.written) ▸ List.prefix_refl _
  · rw [leftBy_after]
    exact written_writeCell rfl
  · exact List.prefix_refl _
  · exact List.prefix_refl _

theorem written_of_steps (program : List Instruction) (partners : Array Nat) (n pc : Nat) (s : Interpreter) :
    s.written <+: (leftBy (steps program partners n pc s)).written := by
  induction n generalizing pc s with
  | zero => exact List.prefix_refl _
  | succ n ih =>
    have hstep := written_of_step program.toArray partners pc s
    cases e : step program.toArray partners pc s with
    | ended ending =>
      rw [e] at hstep
      rw [steps, Nat.add_comm, Execution.steps_add_ended (Execution.steps_one_ended e)]
      exact hstep
    | next pc' s' =>
      rw [e] at hstep
      rw [steps, Execution.steps_succ e]
      exact hstep.trans (ih pc' s')

theorem writtenBy_eq (hp : loopPartners program = .ok partners) :
    writtenBy program n s = (leftBy (steps program partners n 0 s)).written := by
  rw [writtenBy, hp]

theorem writtenBy_mono {m : Nat} (h : m ≤ n) (program : List Instruction) (s : Interpreter) :
    writtenBy program m s <+: writtenBy program n s := by
  obtain ⟨k, rfl⟩ := Nat.exists_eq_add_of_le h
  cases hp : loopPartners program with
  | error e => simp only [writtenBy, hp, List.prefix_refl]
  | ok partners =>
    rw [writtenBy_eq hp, writtenBy_eq hp]
    cases e : steps program partners m 0 s with
    | next pc t =>
      rw [steps, Execution.steps_add e]
      exact written_of_steps program partners k pc t
    | ended ending => rw [steps, Execution.steps_add_ended e]

/-- A run that has ended has written what its last state holds. -/
theorem writtenBy_of_ends (h : Ends program s result t) : ∃ n, ∀ m, n ≤ m → writtenBy program m s = t.written := by
  cases hp : loopPartners program with
  | error e =>
    obtain ⟨fuel, hrun⟩ := h
    simp only [run, hp] at hrun
    cases hrun
    exact ⟨0, fun m _ => by simp only [writtenBy, hp]⟩
  | ok partners =>
    obtain ⟨n, hn⟩ := (ends_iff hp).1 h
    refine ⟨n, fun m hm => ?_⟩
    obtain ⟨k, rfl⟩ := Nat.exists_eq_add_of_le hm
    rw [writtenBy_eq hp, steps, Execution.steps_add_ended hn]
    rfl

end Written

/-! ## Runs on a longer tape -/

/-- Where the run on the shorter tape overflows it, the run on the longer one has written as much and goes on. -/
theorem written_of_overflow {program : List Instruction} {s t : Interpreter} (cells : Array UInt8)
    (hs : s.head < s.tape.size) (h : Ends program s (.error .tapeOverflow) t) :
    ∃ n, ∀ m, n ≤ m → t.written <+: writtenBy program m (s.withCells cells) := by
  rcases ends_cases h with
    ⟨-, ⟨cause, he⟩, -⟩ | ⟨-, partners, trace, pc, u, hp, hx, ⟨i, e, -, he, hfails⟩ | ⟨-, hflush⟩⟩
  · cases he
  · cases he
    cases hfails with
    | overflow hhigh hgreat =>
      -- A refused move leaves the state as it was, and up to it both runs have gone along.
      obtain ⟨-, hn⟩ := (unnoticed_withCells cells).steps hs hx.steps
      refine ⟨trace.length, fun m hm => ?_⟩
      have hmono := writtenBy_mono hm program (s.withCells cells)
      rw [writtenBy_eq hp, hn] at hmono
      exact hmono
  · cases flush_error_iff.1 hflush

theorem run_longerTape (program : List Instruction) (s : Interpreter) (cells : Array UInt8)
    (hs : s.head < s.tape.size) :
    (∀ result t, result ≠ .error .tapeOverflow → Ends program s result t →
      Ends program (s.withCells cells) result (t.withCells cells)) ∧
    (RunsForever program s → RunsForever program (s.withCells cells)) ∧
    ∀ t, Ends program s (.error .tapeOverflow) t →
      (∃ n, ∀ m, n ≤ m → t.written <+: writtenBy program m (s.withCells cells)) ∧
      ∀ result t', Ends program (s.withCells cells) result t' → t.written <+: t'.written := by
  have hsame := unnoticed_withCells cells
  refine ⟨fun result t hresult h => hsame.ends hs hresult h, hsame.runsForever hs, fun t h => ?_⟩
  obtain ⟨n, hn⟩ := written_of_overflow cells hs h
  refine ⟨⟨n, hn⟩, fun result t' h' => ?_⟩
  obtain ⟨k, hk⟩ := writtenBy_of_ends h'
  rw [← hk (n + k) (Nat.le_add_left k n)]
  exact hn _ (Nat.le_add_right n k)

/-- One program that leaves a tape of two cells, and one that does not. -/
theorem run_longerTape_secondCell :
    let s : Interpreter := .create 2 (some (.ofBytes [7])) (some .unbounded)
    let fits : List Instruction := [.input, .output, .moveHead 1, .increment 2]
    let leaves : List Instruction := [.input, .output, .moveHead 2, .output]
    s.head < s.tape.size ∧
    (∃ t, Ends fits s (.ok ()) t ∧ t.tape = #[7, 2] ∧
      ∃ t', Ends fits (s.withCells #[5]) (.ok ()) t' ∧ t'.tape = #[7, 2, 5]) ∧
    (∃ t, Ends leaves s (.error .tapeOverflow) t ∧ t.written = [7] ∧
      ∃ t', Ends leaves (s.withCells #[5]) (.ok ()) t' ∧ t'.written = [7, 5] ∧ t.written <+: t'.written) := by
  intro s fits leaves
  have hs : s.head < s.tape.size := by decide
  refine ⟨hs, ?_, ?_⟩
  · obtain ⟨t, ht, htape⟩ : ∃ t, Ends fits s (.ok ()) t ∧ t.tape = #[7, 2] := ⟨_, ⟨5, rfl⟩, rfl⟩
    refine ⟨t, ht, htape, _, (run_longerTape fits s #[5] hs).1 _ t (by simp) ht, ?_⟩
    rw [withCells, htape]
    rfl
  · obtain ⟨t, ht, hwritten⟩ : ∃ t, Ends leaves s (.error .tapeOverflow) t ∧ t.written = [7] := ⟨_, ⟨3, rfl⟩, rfl⟩
    obtain ⟨t', ht', hwritten'⟩ : ∃ t', Ends leaves (s.withCells #[5]) (.ok ()) t' ∧ t'.written = [7, 5] :=
      ⟨_, ⟨5, rfl⟩, rfl⟩
    exact ⟨t, ht, hwritten, t', ht', hwritten', ((run_longerTape leaves s #[5] hs).2.2 t ht).2 _ t' ht'⟩

end Brainfuck.Interpreter
