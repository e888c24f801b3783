import Brainfuck.Proofs.Linear
import Brainfuck.Proofs.Runs
/-!
# Linear code does what the interpreter does

`lockstep`: on streams that never fail, each step of the interpreter is matched by one step of the linear
machine, or by the two to four that a jump to a mark takes. A loop of the interpreter tests its cell at both
ends, the code only at the condition behind the body; the two come out at the same place.
-/

namespace Brainfuck

open Interpreter (Ends RunsForever Refuses)

/-! ## Streams of plain bytes -/

namespace Exchange

@[simp] theorem output_push_read (exchanges : Array Exchange) (b : Option UInt8) :
    output (exchanges.push (.read b)) = output exchanges :=
  Array.filterMap_push_none rfl (Array.size_push _)

@[simp] theorem output_push_write (exchanges : Array Exchange) (b : UInt8) :
    output (exchanges.push (.write b)) = (output exchanges).push b :=
  Array.filterMap_push_some rfl (Array.size_push _)

end Exchange

/-- A reader of the given bytes that has been read so often. -/
def Reader.readOf (bytes : List UInt8) (reads : Nat) : Reader :=
  { Reader.ofBytes bytes with reads := reads, consumed := min reads bytes.length }

theorem Reader.read_readOf (bytes : List UInt8) (reads : Nat) :
    (Reader.readOf bytes reads).read = (.ok ((bytes.drop reads).headD 0), .readOf bytes (reads + 1)) := by
  simp only [Reader.read, Reader.readOf, Reader.ofBytes, List.getElem?_toArray]
  by_cases hlt : reads < bytes.length
  · have hserved : min reads bytes.length + 1 = min (reads + 1) bytes.length := by omega
    simp only [List.getElem?_eq_getElem hlt, List.drop_eq_getElem_cons hlt, Option.map_some, hserved,
      List.headD_cons]
  · have hend : bytes.length ≤ reads := Nat.le_of_not_lt hlt
    have hserved : min reads bytes.length = min (reads + 1) bytes.length := by omega
    simp only [List.getElem?_eq_none hend, List.drop_eq_nil_of_le hend, Option.map_none, hserved,
      List.headD_nil]

/-! ## States that agree -/

/-- The interpreter at the start of a tape, reading the given bytes and writing without a limit. -/
def Interpreter.fresh (tapeLength : Nat) (input : List UInt8) : Interpreter :=
  .create tapeLength (some (.ofBytes input)) (some .unbounded)

/-- A writer that has accepted these bytes and refuses nothing. -/
def Writer.holding (bytes : Array UInt8) : Writer :=
  { Writer.unbounded with bytes := bytes, writes := bytes.size }

/-- Interpreter and machine have the same tape, have read the same part of the input and have written the
same bytes. -/
structure Agree (input : List UInt8) (s : Interpreter) (m : Linear.Machine) : Prop where
  tape : m.tape = s.tape
  input : ∃ reads, m.input = input.drop reads ∧ s.input = some (.readOf input reads)
  output : s.output.map Writer.bytes = some (Exchange.output m.exchanges)

/-- They agree, and both heads are at the same place of the tape. -/
structure Mirrors (tapeLength : Nat) (input : List UInt8) (s : Interpreter) (m : Linear.Machine) : Prop where
  tape : m.tape = s.tape
  size : s.tape.size = tapeLength
  head : m.head = s.head
  onTape : s.head < tapeLength
  input : ∃ reads, m.input = input.drop reads ∧ s.input = some (.readOf input reads)
  output : s.output = some (.holding (Exchange.output m.exchanges))

namespace Mirrors

variable {tapeLength : Nat} {input : List UInt8} {s : Interpreter} {m : Linear.Machine}

theorem agree (h : Mirrors tapeLength input s m) : Agree input s m where
  tape := h.tape
  input := h.input
  output := by rw [h.output]; rfl

theorem fresh (hN : 0 < tapeLength) :
    Mirrors tapeLength input (.fresh tapeLength input) (Linear.allocated tapeLength input) where
  tape := rfl
  size := Array.size_replicate
  head := rfl
  onTape := hN
  input := ⟨0, rfl, by simp [Interpreter.fresh, Interpreter.create, Reader.readOf, Reader.ofBytes]⟩
  output := rfl

theorem cell (h : Mirrors tapeLength input s m) : m.cell? = some s.cell := by
  have hhead := h.head
  have hlt : m.head < m.tape.size := by rw [h.tape, h.size, hhead]; exact_mod_cast h.onTape
  rw [Linear.exists_cell (by omega) hlt, h.tape, h.head]
  rfl

theorem increment (h : Mirrors tapeLength input s m) (amount : Int) :
    Mirrors tapeLength input (s.increment amount) (m.setCell (s.cell + UInt8.ofInt amount)) where
  tape := by simp [Linear.Machine.setCell, Interpreter.increment, Interpreter.cell, h.tape, h.head]
  size := by simp [Interpreter.increment, h.size]
  head := h.head
  onTape := h.onTape
  input := h.input
  output := h.output

theorem setCell (h : Mirrors tapeLength input s m) (b : UInt8) :
    Mirrors tapeLength input (s.setCell b) (m.setCell b) where
  tape := by simp [Linear.Machine.setCell, Interpreter.setCell, h.tape, h.head]
  size := by simp [Interpreter.setCell, h.size]
  head := h.head
  onTape := h.onTape
  input := h.input
  output := h.output

theorem readCell (h : Mirrors tapeLength input s m) :
    ∃ s', s.readCell = (.ok (), s') ∧ Mirrors tapeLength input s' m.readCell := by
  obtain ⟨reads, hrest, hreader⟩ := h.input
  have hs := h.setCell (m.input.headD 0)
  refine ⟨{ s.setCell (m.input.headD 0) with input := some (.readOf input (reads + 1)) }, ?_, ?_⟩
  · simp only [Interpreter.readCell, hreader, Reader.read_readOf, hrest]
  · refine ⟨hs.tape, hs.size, hs.head, hs.onTape, ⟨reads + 1, ?_, rfl⟩, ?_⟩
    · simp only [Linear.Machine.readCell, hrest, List.tail_drop]
    · simp only [Linear.Machine.readCell, Exchange.output_push_read]
      exact hs.output

theorem writeCell (h : Mirrors tapeLength input s m) :
    ∃ s', s.writeCell = (.ok (), s') ∧ Mirrors tapeLength input s' (m.writeByte s.cell) := by
  refine ⟨{ s with output := some (.holding ((Exchange.output m.exchanges).push s.cell)) }, ?_, ?_⟩
  · obtain ⟨tape, head, reader, writer⟩ := s
    obtain rfl : writer = some (.holding (Exchange.output m.exchanges)) := h.output
    simp [Interpreter.writeCell, Writer.write, Writer.holding, Writer.unbounded, Interpreter.cell]
  · refine ⟨h.tape, h.size, h.head, h.onTape, h.input, ?_⟩
    rw [Linear.Machine.writeByte, Exchange.output_push_write]

theorem flush (h : Mirrors tapeLength input s m) :
    ∃ s', s.flush = (.ok (), s') ∧ Agree input s' m ∧ s'.head = s.head := by
  have hout := h.output
  obtain ⟨tape, head, reader, writer⟩ := s
  obtain rfl : writer = some (.holding (Exchange.output m.exchanges)) := hout
  refine ⟨⟨tape, head, reader, some { Writer.holding (Exchange.output m.exchanges) with flushes := 1 }⟩, ?_, ?_, rfl⟩
  · simp [Interpreter.flush, Writer.flush, Writer.holding, Writer.unbounded]
  · exact ⟨h.tape, h.input, rfl⟩

end Mirrors

/-! ## Steps that only jump -/

namespace Linear

variable {code : List Op} {m : Machine}

/-- So many steps get from one operation to another and leave the machine as it is. -/
inductive Idles (code : List Op) (m : Machine) : Nat → Nat → Nat → Prop
  | done (k : Nat) : Idles code m 0 k k
  | step {n k k' l : Nat} : Linear.step code.toArray k m = .next k' m → Idles code m n k' l →
      Idles code m (n + 1) k l

theorem Idles.steps {n k l : Nat} (h : Idles code m n k l) :
    steps code.toArray n k m = .next l m ∧
      ∀ i < n, ∀ l' t, Linear.steps code.toArray i k m = .next l' t → t = m := by
  induction h with
  | done k => exact ⟨rfl, fun i hi => absurd hi (Nat.not_lt_zero i)⟩
  | step hs _ ih =>
    refine ⟨(Execution.steps_succ hs _).trans ih.1, fun i hi l' t ht => ?_⟩
    cases i with
    | zero => cases ht; rfl
    | succ i =>
      rw [Linear.steps, Execution.steps_succ hs] at ht
      exact ih.2 i (by omega) l' t ht

/-- From the condition of a loop the code goes behind the loop or into its body. -/
theorem idles_condition (hl : Labelled code) {entry condition : Label} {e k : Nat} {b : UInt8}
    (hentry : code[e]? = some (.mark entry)) (hmark : code[k]? = some (.mark condition))
    (hjump : code[k + 1]? = some (.jumpIfNonzero entry)) (hb : m.cell? = some b) :
    ∃ n, Idles code m (n + 1) k (if b = 0 then k + 2 else e + 1) := by
  have htest := step_jumpIfNonzero hl hjump hentry hb
  by_cases h0 : b = 0
  · rw [if_pos h0] at htest ⊢
    exact ⟨1, .step (step_mark hmark) (.step htest (.done _))⟩
  · -- The jump arrives at the mark of the body, which is passed as well.
    rw [if_neg h0] at htest ⊢
    exact ⟨2, .step (step_mark hmark) (.step htest (.step (step_mark hentry) (.done _)))⟩

end Linear

/-! ## Places that correspond -/

/-- Where the code of the instruction at `pc` begins. -/
def codePosition (program : List Instruction) (pc : Nat) : Nat := 1 + codeLength (program.take pc)

theorem codePosition_append (before after : List Instruction) :
    codePosition (before ++ after) before.length = 1 + codeLength before := by
  rw [codePosition, List.take_left]

theorem codePosition_succ {program : List Instruction} {pc : Nat} {i : Instruction}
    (h : program[pc]? = some i) : codePosition program (pc + 1) = codePosition program pc + i.width := by
  rw [codePosition, codePosition, List.take_add_one, h, codeLength_append]
  simp [codeLength, Nat.add_assoc]

theorem split_at {program : List Instruction} {pc : Nat} {i : Instruction} (h : program[pc]? = some i) :
    ∃ before after, program = before ++ i :: after ∧ before.length = pc := by
  obtain ⟨hlt, hi⟩ := List.getElem?_eq_some_iff.1 h
  refine ⟨program.take pc, program.drop (pc + 1), ?_, by simp; omega⟩
  rw [← hi, ← List.drop_eq_getElem_cons hlt, List.take_append_drop]

/-! ## Lockstep -/

section Lockstep
variable {tapeLength : Nat} {input : List UInt8} {b : Block} {code : List Op} {partners : Array Nat}

/-- Interpreter and machine are in front of the same instruction, in states that mirror each other. -/
def InStep (tapeLength : Nat) (input : List UInt8) (program : List Instruction) (_rank pc : Nat)
    (s : Interpreter) (k : Nat) (m : Linear.Machine) : Prop :=
  pc ≤ program.length ∧ k = codePosition program pc ∧ Mirrors tapeLength input s m

/-- The head is on the tape. -/
def HeadOnTape (tapeLength : Nat) (m : Linear.Machine) : Prop := 0 ≤ m.head ∧ m.head < tapeLength

theorem Mirrors.headOnTape {s : Interpreter} {m : Linear.Machine} (h : Mirrors tapeLength input s m) :
    HeadOnTape tapeLength m := by
  have := h.onTape
  rw [HeadOnTape, h.head]
  omega

/-- Both ends of a loop lead to the place behind it, or to its body. -/
theorem loop_idles {program : List Instruction} (hcode : IsCode tapeLength program code)
    {before after : List Instruction} {body : Block} (hloop : program = withLoop before body after)
    {m : Linear.Machine} {cell : UInt8} (hc : m.cell? = some cell) {p q : Nat} (hp : p = before.length)
    (hq : q = p + 1 + body.flatten.length) :
    (∃ n, Linear.Idles code m (n + 1) (codePosition program p)
      (codePosition program (if cell = 0 then q + 1 else p + 1))) ∧
    ∃ n, Linear.Idles code m (n + 1) (codePosition program q)
      (codePosition program (if cell = 0 then q + 1 else p + 1)) := by
  subst hloop hp hq
  obtain ⟨condition, entry, hjump, hentry, hmark, hback⟩ := hcode.loop
  have e : withLoop before body after =
      (before ++ .startLoop :: body.flatten) ++ .finishLoop :: after := by simp [withLoop]
  have hpos : codePosition (withLoop before body after) before.length = 1 + codeLength before :=
    codePosition_append _ _
  have hend : codePosition (withLoop before body after) (before.length + 1 + body.flatten.length) =
      3 + codeLength before + codeLength body.flatten := by
    have := codePosition_append (before ++ .startLoop :: body.flatten) (.finishLoop :: after)
    rw [← e, codeLength_append, codeLength_cons] at this
    simp only [List.length_append, List.length_cons, Instruction.width] at this
    rw [show before.length + 1 + body.flatten.length = before.length + (body.flatten.length + 1) by omega, this]
    omega
  have hto : codePosition (withLoop before body after)
      (if cell = 0 then before.length + 1 + body.flatten.length + 1 else before.length + 1) =
      if cell = 0 then 3 + codeLength before + codeLength body.flatten + 2 else 2 + codeLength before + 1 := by
    split
    · rw [codePosition_succ (withLoop_finish _ _ _), hend]; rfl
    · rw [codePosition_succ (withLoop_start _ _ _), hpos]; simp only [Instruction.width]; omega
  obtain ⟨n, hn⟩ := Linear.idles_condition hcode.labelled hentry hmark
    (by rw [← hback]; congr 1; omega) hc
  rw [hto, hpos, hend]
  exact ⟨⟨n + 1, .step (Linear.step_jump hcode.labelled hjump hmark) hn⟩, n, hn⟩

/-- An instruction that is no loop instruction is matched by its operation, if the two change both states
alike. -/
theorem InStep.advance {rank pc k : Nat} {s s' : Interpreter} {m m' : Linear.Machine} {i : Instruction}
    {program : List Instruction} (h : InStep tapeLength input program rank pc s k m)
    (hi : program[pc]? = some i) (hw : i.width = 1)
    (hs : Linear.step code.toArray k m = .next (k + 1) m') (hm : Mirrors tapeLength input s' m') :
    Execution.Matches (Linear.step code.toArray) (InStep tapeLength input program) (HeadOnTape tapeLength) rank
      (pc + 1) s' k m := by
  obtain ⟨-, rfl, hmirror⟩ := h
  have hpc : pc + 1 ≤ program.length := (List.getElem?_eq_some_iff.1 hi).1
  have hstep : InStep tapeLength input program 0 (pc + 1) s' (codePosition program pc + 1) m' :=
    ⟨hpc, by rw [codePosition_succ hi, hw], hm⟩
  exact .of_step hmirror.headOnTape hs hstep

/-- A loop instruction is matched by jumps, which leave the machine as it is. -/
theorem InStep.idle {rank pc pc' k n : Nat} {s : Interpreter} {m : Linear.Machine}
    {program : List Instruction} (h : InStep tapeLength input program rank pc s k m)
    (hn : Linear.Idles code m (n + 1) k (codePosition program pc')) (hpc : pc' ≤ program.length) :
    Execution.Matches (Linear.step code.toArray) (InStep tapeLength input program) (HeadOnTape tapeLength) rank
      pc' s k m := by
  obtain ⟨hsteps, hstill⟩ := hn.steps
  refine ⟨n + 1, _, m, hsteps, fun i hi l'' t'' hi' => ?_, 0, ⟨hpc, rfl, h.2.2⟩, .inl (Nat.succ_pos n)⟩
  rw [hstill i hi l'' t'' hi']
  exact h.2.2.headOnTape

theorem lockstep (hcode : IsCode tapeLength b.flatten code) (hp : loopPartners b.flatten = .ok partners) :
    Execution.Simulation (Interpreter.step b.flatten.toArray partners) (Linear.step code.toArray)
      (InStep tapeLength input b.flatten) (HeadOnTape tapeLength) := by
  constructor
  intro rank pc pc' k s s' m hR hstep
  have hm := hR.2.2
  have hk := hR.2.1
  cases hi : b.flatten[pc]? with
  | none => simp [Interpreter.step, hi] at hstep
  | some i =>
    obtain ⟨before, after, hsplit, hlen⟩ := split_at hi
    have hpos : k = 1 + codeLength before := by
      rw [hk, hsplit, ← hlen, codePosition_append]
    -- All but the two loop instructions are one operation, which stands at the matching place.
    have hop {op : Op} (hop : i.op? = some op) : code[k]? = some op := by
      rw [hpos]
      rw [hsplit] at hcode
      exact hcode.straight hop
    cases i with
    | increment amount =>
      simp only [Interpreter.step, List.getElem?_toArray, hi] at hstep
      cases hstep
      refine hR.advance hi rfl ?_ (hm.increment amount)
      simp only [Linear.step, List.getElem?_toArray, hop rfl, Linear.onCell, hm.cell]
    | moveHead offset =>
      simp only [Interpreter.step, List.getElem?_toArray, hi, Interpreter.moveHead] at hstep
      cases hmove : Interpreter.movedHead s.tape.size s.head offset with
      | error e => simp [hmove, Interpreter.after] at hstep
      | ok head =>
        simp only [hmove, Interpreter.after] at hstep
        cases hstep
        obtain ⟨hhead, hlt⟩ := Interpreter.movedHead_ok hmove
        refine hR.advance hi rfl (by simp only [Linear.step, List.getElem?_toArray, hop rfl]; rfl) ?_
        exact ⟨hm.tape, hm.size, by rw [hhead, hm.head], by rw [← hm.size]; exact hlt, hm.input, hm.output⟩
    | input =>
      obtain ⟨t, ht, hmt⟩ := hm.readCell
      simp only [Interpreter.step, List.getElem?_toArray, hi, ht, Interpreter.after] at hstep
      cases hstep
      refine hR.advance hi rfl ?_ hmt
      simp only [Linear.step, List.getElem?_toArray, hop rfl, Linear.onCell, hm.cell]
    | output =>
      obtain ⟨t, ht, hmt⟩ := hm.writeCell
      simp only [Interpreter.step, List.getElem?_toArray, hi, ht, Interpreter.after] at hstep
      cases hstep
      refine hR.advance hi rfl ?_ hmt
      simp only [Linear.step, List.getElem?_toArray, hop rfl, Linear.onCell, hm.cell]
    | startLoop =>
      obtain ⟨before, body, after, hloop, rfl⟩ := flatten_start b pc hi
      rw [hloop] at hp hstep
      rw [(Interpreter.step_loop hp s).1] at hstep
      cases hstep
      obtain ⟨n, hn⟩ := (loop_idles hcode hloop hm.cell rfl rfl).1
      rw [← hk] at hn
      refine hR.idle hn ?_
      simp only [hloop, withLoop_length]
      split <;> omega
    | finishLoop =>
      obtain ⟨before, body, after, hloop, rfl⟩ := flatten_finish b pc hi
      rw [hloop] at hp hstep
      rw [(Interpreter.step_loop hp s).2] at hstep
      cases hstep
      obtain ⟨n, hn⟩ := (loop_idles hcode hloop hm.cell rfl rfl).2
      rw [← hk] at hn
      refine hR.idle hn ?_
      simp only [hloop, withLoop_length]
      split <;> omega

end Lockstep

end Brainfuck
