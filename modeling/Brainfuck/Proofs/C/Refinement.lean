import Brainfuck.Code.C.Machine
import Brainfuck.Proofs.Linear
/-!
# The C program does what the linear code does

`simulation`: the lines of an operation do what the operation does, and a `goto` arrives at the line of its
label, which does nothing. `faithful`: so the whole program does what the linear code does, as long as heads
and offsets are numbers of 64 bits.
-/

namespace Brainfuck.C

/-! ## Where the lines of an operation stand -/

/-- The line at which the operation at `k` begins. -/
def place (code : List Op) (k : Nat) : Nat := (lines (code.take k)).length

section Places
variable {code : List Op} {k : Nat} {op : Op} (h : code[k]? = some op)
include h

theorem place_succ : place code (k + 1) = place code k + (opLines op).length := by
  rw [place, place, List.take_add_one, h]
  simp [lines]

theorem lines_split : ∃ rest, lines code = lines (code.take k) ++ (opLines op ++ rest) := by
  obtain ⟨hlt, hop⟩ := List.getElem?_eq_some_iff.1 h
  have hcode : code = code.take k ++ op :: code.drop (k + 1) := by
    rw [← hop, ← List.drop_eq_getElem_cons hlt, List.take_append_drop]
  refine ⟨lines (code.drop (k + 1)), ?_⟩
  conv_lhs => rw [hcode, lines, List.flatMap_append, List.flatMap_cons, ← lines, ← lines]

theorem getElem?_opLines {i : Nat} {line : Line} (hi : (opLines op)[i]? = some line) :
    (lines code)[place code k + i]? = some line := by
  obtain ⟨rest, hrest⟩ := lines_split h
  have hlt := (List.getElem?_eq_some_iff.1 hi).1
  rw [hrest, place, List.getElem?_append_right (by omega), Nat.add_sub_cancel_left,
    List.getElem?_append_left hlt, hi]

theorem getElem?_place {line : Line} (h0 : (opLines op)[0]? = some line) :
    (lines code)[place code k]? = some line :=
  getElem?_opLines h h0

end Places

/-! ## Labels -/

def Line.label? : Line → Option Label
  | label l => some l
  | _ => none

theorem labels_eq (code : List Op) : (lines code).filterMap Line.label? = marks code := by
  induction code with
  | nil => rfl
  | cons op code ih =>
    rw [lines, List.flatMap_cons, List.filterMap_append, ← lines, ih, marks_cons]
    cases op <;> rfl

theorem goTo_eq {code : List Op} {k : Nat} {l : Label} {M : Machine} (h : (marks code).Nodup)
    (hk : code[k]? = some (.mark l)) : goTo (lines code).toArray l M = .next (place code k) M := by
  have hline : (lines code)[place code k]? = some (.label l) := getElem?_place hk rfl
  have hfind := findIdx?_of_nodup Line.label? ((labels_eq code).symm ▸ h) hline rfl
  rw [goTo, labelLine?, List.findIdx?_toArray, hfind]

/-! ## Numbers of 64 bits -/

theorem Machine.inRange_iff {position : Int} :
    Machine.inRange position = true ↔ -2 ^ 63 ≤ position ∧ position < 2 ^ 63 := by
  simp only [Machine.inRange, Bool.and_eq_true, decide_eq_true_eq]
  rw [greatestPosition]
  omega

theorem Machine.isConstant_iff {number : Int} :
    Machine.isConstant number = true ↔ -2 ^ 63 < number ∧ number < 2 ^ 63 := by
  simp only [Machine.isConstant, Bool.and_eq_true, decide_eq_true_eq]
  rw [greatestPosition]
  omega

/-! ## Machines that agree -/

/-- Both machines have the same tape and head, the same input left, and have done the same exchanges. -/
structure Agrees (m : Linear.Machine) (M : Machine) : Prop where
  tape : M.tape = some m.tape
  head : M.head = some m.head
  input : M.input = m.input
  exchanges : M.exchanges = m.exchanges

section Lines
variable {m : Linear.Machine} {M : Machine} {b : UInt8}

theorem Agrees.cell (h : Agrees m M) : M.cell? = m.cell? := by
  simp only [Machine.cell?, h.tape, h.head, Linear.Machine.cell?]
  rfl

theorem Agrees.setCell (h : Agrees m M) (hb : m.cell? = some b) (c : UInt8) :
    M.setCell? c = some { M with tape := some (m.setCell c).tape } := by
  obtain ⟨h0, hlt⟩ := Linear.head_lt_of_cell hb
  have hon : ¬ (m.head < 0 ∨ (m.tape.size : Int) ≤ m.head) := by omega
  simp [Machine.setCell?, h.tape, h.head, hon, Linear.Machine.setCell]

/-- Lines carried out one after another. -/
def carryOut (M : Machine) (ls : List Line) : Option Machine := ls.foldlM Machine.execute? M

theorem allocate_lines (hi : M.input = m.input) (he : M.exchanges = m.exchanges) {tapeLength : Nat}
    (hN : (tapeLength : Int) ≤ greatestPosition) :
    ∃ M', carryOut M (opLines (.allocate tapeLength)) = some M' ∧
      Agrees { m with tape := Array.replicate tapeLength 0, head := 0 } M' := by
  have hconstant : Machine.isConstant tapeLength = true := by
    rw [greatestPosition] at hN
    exact Machine.isConstant_iff.2 (by omega)
  refine ⟨{ M with tape := some (Array.replicate tapeLength 0), head := some 0 }, ?_, rfl, rfl, hi, he⟩
  simp [carryOut, opLines, Machine.execute?, hconstant]

theorem moveHead_lines (h : Agrees m M) {offset : Int} (hoffset : Machine.isConstant offset = true)
    (hrange : Machine.inRange (m.head + offset) = true) :
    ∃ M', carryOut M (opLines (.moveHead offset)) = some M' ∧ Agrees { m with head := m.head + offset } M' := by
  refine ⟨{ M with head := some (m.head + offset) }, ?_, h.tape, rfl, h.input, h.exchanges⟩
  simp [carryOut, opLines, Machine.execute?, h.head, hoffset, hrange]

theorem mark_lines (l : Label) : carryOut M (opLines (.mark l)) = some M := rfl

section Cells
variable (h : Agrees m M) (hb : m.cell? = some b)
include h hb

theorem increment_lines (amount : UInt8) :
    ∃ M', carryOut M (opLines (.increment amount)) = some M' ∧ Agrees (m.setCell (b + amount)) M' := by
  refine ⟨{ M with tape := some (m.setCell (b + amount)).tape }, ?_, rfl, h.head, h.input, h.exchanges⟩
  simp [carryOut, opLines, Machine.execute?, h.cell, hb, h.setCell hb]

theorem input_lines : ∃ M', carryOut M (opLines .input) = some M' ∧ Agrees m.readCell M' := by
  cases hi : m.input with
  | nil =>
    refine ⟨{ M with tape := some (m.setCell 0).tape, exchanges := m.exchanges.push (.read none) }, ?_, ?_⟩
    · simp [carryOut, opLines, Machine.execute?, h.input, hi, h.setCell hb, h.exchanges]
    · refine ⟨?_, h.head, ?_, ?_⟩ <;> simp [Linear.Machine.readCell, hi, h.input]
  | cons c rest =>
    refine ⟨{ M with tape := some (m.setCell c).tape, input := rest,
                     exchanges := m.exchanges.push (.read (some c)) }, ?_, ?_⟩
    · simp [carryOut, opLines, Machine.execute?, h.input, hi, h.setCell hb, h.exchanges]
    · refine ⟨?_, h.head, ?_, ?_⟩ <;> simp [Linear.Machine.readCell, hi]

theorem output_lines : ∃ M', carryOut M (opLines .output) = some M' ∧ Agrees (m.writeByte b) M' := by
  refine ⟨{ M with exchanges := M.exchanges.push (.write b) }, ?_, h.tape, h.head, h.input, ?_⟩
  · simp [carryOut, opLines, Machine.execute?, h.cell, hb]
  · rw [h.exchanges]; rfl

end Cells

end Lines

/-! ## From line to line -/

section Matching
variable {tapeLength : Nat} {program : List Instruction} {code : List Op} {k : Nat} {m m' : Linear.Machine}
  {M M' : Machine} {input : List UInt8}

theorem step_execute {ls : List Line} {pc : Nat} {line : Line} (hline : ls[pc]? = some line)
    (h : M.execute? line = some M') : step ls.toArray pc M = .next (pc + 1) M' := by
  rw [step, List.getElem?_toArray, hline]
  cases line with
  | returnZero | goto | gotoIfNonzero => cases h
  | _ => simp only [h]

theorem steps_opLines {op : Op} (hk : code[k]? = some op) (h : carryOut M (opLines op) = some M') :
    steps (lines code).toArray (opLines op).length (place code k) M = .next (place code (k + 1)) M' := by
  obtain ⟨rest, hrest⟩ := lines_split hk
  rw [place_succ hk]
  exact Execution.steps_in_a_row Machine.execute? (fun _ _ _ _ => step_execute) hrest h

theorem step_goto {l : Label} {k' : Nat} (hl : Labelled code) (hk : code[k]? = some (.jump l))
    (hk' : code[k']? = some (.mark l)) : step (lines code).toArray (place code k) M = .next (place code k') M := by
  have hline : (lines code)[place code k]? = some (.goto l) := getElem?_place hk rfl
  rw [step, List.getElem?_toArray, hline]
  exact goTo_eq hl.nodup hk'

theorem step_fallThrough {l : Label} (hk : code[k]? = some (.jumpIfNonzero l)) (hc : M.cell? = some 0) :
    step (lines code).toArray (place code k) M = .next (place code (k + 1)) M := by
  have hline : (lines code)[place code k]? = some (.gotoIfNonzero l) := getElem?_place hk rfl
  rw [step, List.getElem?_toArray, hline, place_succ hk]
  simp [hc, opLines]

theorem step_gotoIfNonzero {l : Label} {k' : Nat} {b : UInt8} (hl : Labelled code)
    (hk : code[k]? = some (.jumpIfNonzero l)) (hk' : code[k']? = some (.mark l)) (hc : M.cell? = some b)
    (h0 : b ≠ 0) : step (lines code).toArray (place code k) M = .next (place code k') M := by
  have hline : (lines code)[place code k]? = some (.gotoIfNonzero l) := getElem?_place hk rfl
  rw [step, List.getElem?_toArray, hline]
  simp [hc, UInt8.pos_iff_ne_zero.2 h0, goTo_eq hl.nodup hk']

/-! ## The simulation -/

/-- The machines agree and are in front of the same operation, one that the linear machine comes to. -/
def Beside (code : List Op) (input : List UInt8) (_rank k : Nat) (m : Linear.Machine) (line : Nat)
    (M : Machine) : Prop :=
  Agrees m M ∧ line = place code k ∧ ∃ n, Linear.steps code.toArray n 0 (.start input) = .next k m

/-- Every move that the linear machine comes to can be written down and keeps the head within 64 bits. -/
def MovesFit (code : List Op) (input : List UInt8) : Prop :=
  ∀ n k m offset, Linear.steps code.toArray n 0 (.start input) = .next k m →
    code[k]? = some (.moveHead offset) →
    Machine.isConstant offset = true ∧ Machine.inRange (m.head + offset) = true

theorem simulation (hcode : IsCode tapeLength program code) (hN : (tapeLength : Int) ≤ greatestPosition)
    (hmoves : MovesFit code input) :
    Execution.Simulation (Linear.step code.toArray) (step (lines code).toArray) (Beside code input)
      (fun _ => True) := by
  have hl := hcode.labelled
  constructor
  intro rank k k' line m m' M hR hstep
  obtain ⟨hagrees, rfl, n, hn⟩ := hR
  have hreach : Linear.steps code.toArray (n + 1) 0 (.start input) = .next k' m' :=
    (Execution.steps_add hn 1).trans (Execution.steps_one hstep)
  -- Every operation has a line of its own, so the rank is not needed.
  have matches_lines {j : Nat} {M' : Machine} (hj : 0 < j) (ha : Agrees m' M')
      (hs : steps (lines code).toArray j (place code k) M = .next (place code k') M') :
      Execution.Matches (step (lines code).toArray) (Beside code input) (fun _ => True) rank k' m'
        (place code k) M :=
    .of_steps hj hs (show Beside code input 0 k' m' (place code k') M' from ⟨ha, rfl, n + 1, hreach⟩)
  cases Linear.transition_of_step hstep with
  | @allocate length hk =>
    obtain rfl := hcode.length_of_allocate (List.mem_of_getElem? hk)
    obtain ⟨M', hM', ha⟩ := allocate_lines hagrees.input hagrees.exchanges hN
    exact matches_lines (Nat.succ_pos _) ha (steps_opLines hk hM')
  | increment hk hb =>
    obtain ⟨M', hM', ha⟩ := increment_lines hagrees hb _
    exact matches_lines (Nat.succ_pos _) ha (steps_opLines hk hM')
  | moveHead hk =>
    obtain ⟨hconstant, hrange⟩ := hmoves n k m _ hn hk
    obtain ⟨M', hM', ha⟩ := moveHead_lines hagrees hconstant hrange
    exact matches_lines (Nat.succ_pos _) ha (steps_opLines hk hM')
  | input hk hb =>
    obtain ⟨M', hM', ha⟩ := input_lines hagrees hb
    exact matches_lines (Nat.succ_pos _) ha (steps_opLines hk hM')
  | output hk hb =>
    obtain ⟨M', hM', ha⟩ := output_lines hagrees hb
    exact matches_lines (Nat.succ_pos _) ha (steps_opLines hk hM')
  | jump hk hk' => exact matches_lines Nat.one_pos hagrees (Execution.steps_one (step_goto hl hk hk'))
  | mark hk => exact matches_lines (Nat.succ_pos _) hagrees (steps_opLines hk (mark_lines _))
  | fallThrough hk hb =>
    exact matches_lines Nat.one_pos hagrees (Execution.steps_one (step_fallThrough hk (hagrees.cell.trans hb)))
  | jumpBack hk hb h0 hk' =>
    have hgoto := step_gotoIfNonzero hl hk hk' (hagrees.cell.trans hb) h0
    exact matches_lines Nat.one_pos hagrees (Execution.steps_one hgoto)

/-- At the end of the code the tape is freed and the program returns. -/
theorem returns_of_halt {rank k line : Nat} {m m' : Linear.Machine} {M : Machine}
    (hR : Beside code input rank k m line M) (hstep : Linear.step code.toArray k m = .ended (.halted m')) :
    ∃ j M', steps (lines code).toArray j line M = .ended (.halted M') ∧ Agrees m' M' := by
  obtain ⟨hk, rfl⟩ := Linear.halt_of_step hstep
  obtain ⟨hagrees, rfl, -⟩ := hR
  have hfree : (lines code)[place code k]? = some .freeTape := getElem?_place hk rfl
  have hreturn : (lines code)[place code k + 1]? = some .returnZero := getElem?_opLines hk rfl
  have h₁ : step (lines code).toArray (place code k) M = .next (place code k + 1) M :=
    step_execute hfree (by simp [Machine.execute?, hagrees.tape])
  have h₂ : step (lines code).toArray (place code k + 1) M = .ended (.halted M) := by
    rw [step, List.getElem?_toArray, hreturn]
  exact ⟨2, M, (Execution.steps_succ h₁ 1).trans (Execution.steps_one_ended h₂), hagrees⟩

theorem faithful (hcode : IsCode tapeLength program code) (hN : (tapeLength : Int) ≤ greatestPosition)
    (hmoves : MovesFit code input) (hs : Linear.StaysOnTape tapeLength code.toArray input) :
    Execution.Faithful (Linear.step code.toArray) (step (lines code).toArray) Agrees
      (.start input) (.start input) := by
  obtain ⟨M, hM, hagrees⟩ := allocate_lines (m := Linear.Machine.start input) (M := .start input) rfl rfl hN
  have hfirst : Linear.step code.toArray 0 (.start input) = .next 1 (Linear.allocated tapeLength input) :=
    Linear.step_allocate hcode
  have hbeside : Beside code input 0 1 (Linear.allocated tapeLength input) (place code 1) M :=
    ⟨hagrees, rfl, 1, Execution.steps_one hfirst⟩
  exact (simulation hcode hN hmoves).faithful (fun hR => hR.1) returns_of_halt hfirst
    (steps_opLines hcode.first hM) hbeside (Linear.not_stuck hcode hs)

end Matching

end Brainfuck.C
