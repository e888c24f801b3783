import Brainfuck.Interpreter.History
import Brainfuck.Proofs.Failure
/-!
# Histories of runs

`Recorded.of_runsInTurn` and `Recorded.runsInTurn`: runs that end one after the other have a history, and a history
belongs to such runs. `Recorded.linked`: its acts lead from one state to the next, which is all that the laws on
streams need.
-/

namespace Brainfuck

theorem Reader.read_ok {r : Reader} {b : UInt8} (h : r.read.1 = .ok b) : r.answer r.reads = some (.byte b) ∨
    b = 0 ∧ (r.answer r.reads = none ∨ r.answer r.reads = some (.fault .unexpectedEof)) := by
  obtain ⟨answer, reads, consumed⟩ := r
  unfold read at h
  dsimp only at h ⊢
  split at h
  next hbyte =>
    cases h
    exact .inl hbyte
  next hend =>
    cases h
    exact .inr ⟨rfl, .inl hend⟩
  next hend =>
    cases h
    exact .inr ⟨rfl, .inr hend⟩
  next => cases h

theorem Reader.Serves.after {r : Reader} {calls : Nat → Option Item} {place : Nat → Nat} (h : r.Serves calls place)
    (n : Nat) : (Reader.after n r).Serves calls place := by
  refine ⟨h.start, ?_⟩
  rw [Reader.answer_after]
  exact h.reads

namespace Interpreter

/-! ## Single acts -/

/-- Carries out one instruction, wherever it stands. -/
def carryOut (s : Interpreter) : Instruction → Except Error Unit × Interpreter
  | .increment amount => (.ok (), s.increment amount)
  | .moveHead offset => s.moveHead offset
  | .input => s.readCell
  | .output => s.writeCell
  | .startLoop | .finishLoop => (.ok (), s)

/-- Where a run goes on behind an instruction at `pc`. -/
def placeBehind (partners : Array Nat) (pc : Nat) (cell : UInt8) : Instruction → Nat
  | .startLoop => if cell = 0 then partners.getD pc 0 + 1 else pc + 1
  | .finishLoop => if cell = 0 then pc + 1 else partners.getD pc 0 + 1
  | _ => pc + 1

section Acts
variable {program : List Instruction} {partners : Array Nat} {pc pc' : Nat} {s t : Interpreter} {i : Instruction}
  {outcome : Except Error Unit}

theorem step_eq_carryOut (hi : program[pc]? = some i) : step program.toArray partners pc s =
    match s.carryOut i with
    | (.ok (), t) => .next (placeBehind partners pc s.cell i) t
    | (.error e, t) => .ended (.error e, t) := by
  have hafter (outcome : Except Error Unit × Interpreter) : after pc outcome =
      match outcome with
      | (.ok (), t) => .next (pc + 1) t
      | (.error e, t) => .ended (.error e, t) := by
    obtain ⟨_ | _, t⟩ := outcome <;> rfl
  unfold step
  rw [List.getElem?_toArray, hi]
  cases i with
  | increment | startLoop | finishLoop => rfl
  | moveHead | input | output => exact hafter _

theorem step_next_iff (hi : program[pc]? = some i) : step program.toArray partners pc s = .next pc' t ↔
    s.carryOut i = (.ok (), t) ∧ placeBehind partners pc s.cell i = pc' := by
  rw [step_eq_carryOut hi]
  rcases s.carryOut i with ⟨e | ⟨⟩, t'⟩
  · simp
  · simp [and_comm]

theorem step_ended_iff (hi : program[pc]? = some i) :
    step program.toArray partners pc s = .ended (outcome, t) ↔
      ∃ e, outcome = .error e ∧ s.carryOut i = (.error e, t) := by
  rw [step_eq_carryOut hi]
  rcases s.carryOut i with ⟨e | ⟨⟩, t'⟩
  · constructor
    · intro h
      cases h
      exact ⟨e, rfl, rfl⟩
    · rintro ⟨e', rfl, h⟩
      cases h
      rfl
  · simp

/-- A head on the tape stays there, and only inputs and outputs touch a stream. -/
theorem carryOut_keeps (h : s.carryOut i = (outcome, t)) :
    (s.head < s.tape.size → t.tape.size = s.tape.size ∧ t.head < s.tape.size) ∧
      (i ≠ .input → t.input = s.input) ∧ (i ≠ .output → t.output = s.output) := by
  cases i with
  | increment amount =>
    cases h
    exact ⟨fun hs => ⟨Array.size_setIfInBounds, hs⟩, fun _ => rfl, fun _ => rfl⟩
  | moveHead offset =>
    have hmove : s.moveHead offset = (outcome, t) := h
    rw [moveHead_eq] at hmove
    split_ifs at hmove <;> cases hmove
    · exact ⟨fun hs => ⟨rfl, hs⟩, fun _ => rfl, fun _ => rfl⟩
    · exact ⟨fun hs => ⟨rfl, hs⟩, fun _ => rfl, fun _ => rfl⟩
    · exact ⟨fun hs => ⟨rfl, hs⟩, fun _ => rfl, fun _ => rfl⟩
    · refine ⟨fun _ => ⟨rfl, ?_⟩, fun _ => rfl, fun _ => rfl⟩
      dsimp only
      omega
  | input =>
    have hread : s.readCell = (outcome, t) := h
    obtain ⟨hsize, hhead⟩ := size_of_readCell hread
    refine ⟨fun hs => ⟨hsize, hhead ▸ hs⟩, fun hne => absurd rfl hne, fun _ => ?_⟩
    rw [readCell_eq] at hread
    split at hread
    · cases hread
      rfl
    · split at hread <;> cases hread <;> rfl
  | output =>
    have hwrite : s.writeCell = (outcome, t) := h
    obtain ⟨hsize, hhead⟩ := size_of_writeCell hwrite
    refine ⟨fun hs => ⟨hsize, hhead ▸ hs⟩, fun _ => ?_, fun hne => absurd rfl hne⟩
    rw [writeCell_eq] at hwrite
    split at hwrite
    · cases hwrite
      rfl
    · split at hwrite <;> cases hwrite <;> rfl
  | startLoop | finishLoop =>
    cases h
    exact ⟨fun hs => ⟨rfl, hs⟩, fun _ => rfl, fun _ => rfl⟩

/-- An input asks its reader once, and does with the answer what the answer says. -/
theorem carryOut_input {reader : Reader} (hinput : s.input = some reader) (h : s.carryOut .input = (outcome, t)) :
    t.input = some (reader.after 1) ∧ Act.Receives ⟨.input, s, outcome, t⟩ (reader.answer reader.reads) := by
  have hread : s.readCell = (outcome, t) := h
  rw [readCell_eq, hinput] at hread
  dsimp only at hread
  cases hanswer : reader.read.1 with
  | error f =>
    rw [hanswer] at hread
    cases hread
    obtain ⟨hfault, hne⟩ := Reader.read_error_iff.1 hanswer
    rw [hfault]
    exact ⟨rfl, .failed hne rfl rfl rfl⟩
  | ok b =>
    rw [hanswer] at hread
    cases hread
    have hstores : Act.Stores ⟨.input, s, .ok (), { s.setCell b with input := some (reader.after 1) }⟩ b :=
      ⟨rfl, rfl, rfl⟩
    refine ⟨rfl, ?_⟩
    rcases Reader.read_ok hanswer with hbyte | ⟨rfl, hend | hend⟩
    · rw [hbyte]
      exact .byte hstores
    · rw [hend]
      exact .atEnd hstores
    · rw [hend]
      exact .announcedEnd hstores

theorem carryOut_input_none (hinput : s.input = none) (h : s.carryOut .input = (outcome, t)) :
    t.input = none ∧ Act.Stores ⟨.input, s, outcome, t⟩ 0 := by
  have hread : s.readCell = (outcome, t) := h
  rw [readCell_eq, hinput] at hread
  cases hread
  exact ⟨hinput, rfl, rfl, rfl⟩

/-- An output that succeeds writes what it finds in the cell, and one that fails writes nothing. -/
theorem carryOut_output {writer : Writer} (houtput : s.output = some writer)
    (h : s.carryOut .output = (outcome, t)) :
    t.output.map Writer.bytes =
      some (writer.bytes ++ (History.written [⟨.output, s, outcome, t⟩]).toArray) := by
  have hwrite : s.writeCell = (outcome, t) := h
  rw [writeCell_eq, houtput] at hwrite
  dsimp only at hwrite
  split at hwrite
  · cases hwrite
    rfl
  · cases hwrite
    exact congrArg some Array.append_empty.symm

theorem carryOut_output_none (houtput : s.output = none) (h : s.carryOut .output = (outcome, t)) :
    outcome = .ok () ∧ t = s := by
  have hwrite : s.writeCell = (outcome, t) := h
  rw [writeCell_eq, houtput] at hwrite
  cases hwrite
  exact ⟨rfl, rfl⟩

end Acts

/-! ## Acts in a row -/

theorem History.inputs_append (p q : History) : inputs (p ++ q) = inputs p + inputs q := List.countP_append

theorem History.inputs_cons (act : Act) (history : History) :
    inputs (act :: history) = inputs [act] + inputs history := inputs_append [act] history

theorem History.written_cons (act : Act) (history : History) :
    written (act :: history) = written [act] ++ written history := List.filterMap_append (l := [act])

theorem History.stored_cons (act : Act) (history : History) :
    stored (act :: history) = stored [act] ++ stored history := List.filterMap_append (l := [act])

theorem History.inputs_single (act : Act) : inputs [act] = if act.instruction = .input then 1 else 0 := by
  unfold inputs
  split
  next h => simp [h]
  next h => simp [h]

theorem History.written_of_ne {act : Act} (h : act.instruction ≠ .output) : written [act] = [] := by
  obtain ⟨i, before, outcome, after⟩ := act
  cases i <;> first | rfl | exact absurd rfl h

theorem History.stored_of_ne {act : Act} (h : act.instruction ≠ .input) : stored [act] = [] := by
  obtain ⟨i, before, outcome, after⟩ := act
  cases i <;> first | rfl | exact absurd rfl h

/-- The reader of an interpreter is asked as often as there are inputs. -/
theorem input_of_carryOut {s t : Interpreter} {i : Instruction} {outcome : Except Error Unit} {reader : Reader}
    (hs : s.input = some reader) (h : s.carryOut i = (outcome, t)) :
    t.input = some (reader.after (History.inputs [⟨i, s, outcome, t⟩])) := by
  rw [History.inputs_single]
  by_cases hi : i = .input
  · subst hi
    exact (carryOut_input hs h).1
  · rw [if_neg hi, (carryOut_keeps h).2.1 hi]
    exact hs

/-- The acts lead from one state to the other, each carrying out its instruction. In between the output may be
flushed. -/
inductive Linked : Interpreter → History → Interpreter → Prop
  | nothing (s : Interpreter) : Linked s [] s
  | act {s i outcome s' history t} : s.carryOut i = (outcome, s') → Linked s' history t →
      Linked s (⟨i, s, outcome, s'⟩ :: history) t
  | flush {s result s' history t} : s.flush = (result, s') → Linked s' history t → Linked s history t

section Links
variable {program : List Instruction} {partners : Array Nat} {pc : Nat} {s t u : Interpreter}
  {result : Except Error Unit} {history history' : History}

theorem Linked.append (h : Linked s history t) (h' : Linked t history' u) : Linked s (history ++ history') u := by
  induction h with
  | nothing => exact h'
  | act hact _ ih => exact .act hact (ih h')
  | flush hflush _ ih => exact .flush hflush (ih h')

theorem flush_keeps (h : s.flush = (result, t)) : t.tape = s.tape ∧ t.head = s.head ∧ t.input = s.input ∧
    t.output.map Writer.bytes = s.output.map Writer.bytes := by
  rw [flush_eq] at h
  split at h
  · cases h
    exact ⟨rfl, rfl, rfl, rfl⟩
  next writer houtput =>
    rw [houtput]
    cases h
    exact ⟨rfl, rfl, rfl, rfl⟩

/-! ## What the acts leave on the streams -/

/-- What holds of the first state and is kept by acts and flushes holds before every act, where `Q` follows from it. -/
theorem Linked.invariant {P : Interpreter → Prop} {Q : Act → Prop}
    (hact : ∀ {s i outcome s'}, P s → s.carryOut i = (outcome, s') → Q ⟨i, s, outcome, s'⟩ ∧ P s')
    (hflush : ∀ {s result s'}, P s → s.flush = (result, s') → P s') (h : Linked s history t) (hs : P s) :
    ∀ act ∈ history, Q act := by
  induction h with
  | nothing =>
    intro act hmem
    cases hmem
  | act hcarry _ ih =>
    obtain ⟨hfirst, hs'⟩ := hact hs hcarry
    intro act hmem
    rcases List.mem_cons.1 hmem with rfl | hmem
    · exact hfirst
    · exact ih hs' act hmem
  | flush hflushed _ ih => exact ih (hflush hs hflushed)

theorem Linked.onTape (h : Linked s history t) (hs : s.head < s.tape.size) :
    ∀ act ∈ history, act.before.head < act.before.tape.size := by
  refine Linked.invariant (P := fun s => s.head < s.tape.size) ?_ ?_ h hs
  · intro s i outcome s' hs hcarry
    obtain ⟨hsize, hhead⟩ := (carryOut_keeps hcarry).1 hs
    exact ⟨hs, hsize ▸ hhead⟩
  · intro s result s' hs hflush
    obtain ⟨htape, hhead, -⟩ := flush_keeps hflush
    rw [htape, hhead]
    exact hs

theorem Linked.bytes (h : Linked s history t) :
    t.output.map Writer.bytes = s.output.map fun w => w.bytes ++ history.written.toArray := by
  induction h with
  | nothing s =>
    cases s.output with
    | none => rfl
    | some w => exact congrArg some Array.append_empty.symm
  | @act s i outcome s' history t hcarry _ ih =>
    -- What the first act has written stands in front of what the others write.
    have hfirst : s'.output.map Writer.bytes =
        s.output.map fun w => w.bytes ++ (History.written [⟨i, s, outcome, s'⟩]).toArray := by
      by_cases hi : i = .output
      · subst hi
        cases houtput : s.output with
        | none =>
          obtain ⟨-, rfl⟩ := carryOut_output_none houtput hcarry
          rw [houtput]
          rfl
        | some writer => exact carryOut_output houtput hcarry
      · rw [(carryOut_keeps hcarry).2.2 hi, History.written_of_ne hi]
        cases s.output with
        | none => rfl
        | some w => exact congrArg some Array.append_empty.symm
    have hrest (w : Option Writer) : (w.map fun w => w.bytes ++ history.written.toArray) =
        (w.map Writer.bytes).map (· ++ history.written.toArray) := by
      rw [Option.map_map]
      rfl
    rw [ih, hrest, hfirst, Option.map_map, History.written_cons _ history]
    congr 1
    funext w
    simp
  | @flush s result s' history t hflush _ ih =>
    have hbytes := (flush_keeps hflush).2.2.2
    rw [ih]
    cases hs : s.output with
    | none =>
      rw [hs] at hbytes
      rw [Option.map_eq_none_iff.1 hbytes]
    | some w =>
      rw [hs] at hbytes
      obtain ⟨w', hw', hsame⟩ := Option.map_eq_some_iff.1 hbytes
      rw [hw']
      exact congrArg (fun bytes => some (bytes ++ history.written.toArray)) hsame

/-- Where no writer takes them, outputs do nothing. -/
theorem Linked.outputs_of_none (h : Linked s history t) (hs : s.output = none) :
    ∀ act ∈ history, act.instruction = .output → act.outcome = .ok () ∧ act.after = act.before := by
  refine Linked.invariant (P := fun s => s.output = none) ?_ ?_ h hs
  · intro s i outcome s' hs hcarry
    by_cases hi : i = .output
    · subst hi
      obtain ⟨hok, rfl⟩ := carryOut_output_none hs hcarry
      exact ⟨fun _ => ⟨hok, rfl⟩, hs⟩
    · exact ⟨fun hsame => absurd hsame hi, ((carryOut_keeps hcarry).2.2 hi).trans hs⟩
  · intro s result s' hs hflush
    have hbytes := (flush_keeps hflush).2.2.2
    rw [hs] at hbytes
    exact Option.map_eq_none_iff.1 hbytes

/-- Where no reader serves them, inputs store 0. -/
theorem Linked.inputs_of_none (h : Linked s history t) (hs : s.input = none) :
    ∀ act ∈ history, act.instruction = .input → act.Stores 0 := by
  refine Linked.invariant (P := fun s => s.input = none) ?_ ?_ h hs
  · intro s i outcome s' hs hcarry
    by_cases hi : i = .input
    · subst hi
      obtain ⟨hnone, hstores⟩ := carryOut_input_none hs hcarry
      exact ⟨fun _ => hstores, hnone⟩
    · exact ⟨fun hsame => absurd hsame hi, ((carryOut_keeps hcarry).2.1 hi).trans hs⟩
  · intro s result s' hs hflush
    exact (flush_keeps hflush).2.2.1.trans hs

theorem Linked.input {reader : Reader} (h : Linked s history t) (hs : s.input = some reader) :
    t.input = some (reader.after history.inputs) := by
  induction h generalizing reader with
  | nothing => exact hs
  | @act s i outcome s' history t hcarry _ ih =>
    rw [History.inputs_cons _ history, Reader.after_add]
    exact ih (input_of_carryOut hs hcarry)
  | flush hflush _ ih => exact ih ((flush_keeps hflush).2.2.1.trans hs)

/-- The inputs of the acts are all that is read, in the order in which the reader serves it. -/
theorem Linked.takesInOrder {reader : Reader} {calls : Nat → Option Reader.Item} {place : Nat → Nat}
    (h : Linked s history t) (hs : s.input = some reader) (hserves : reader.Serves calls place) :
    TakesInOrder calls (place reader.reads) history (place (reader.reads + history.inputs)) := by
  induction h generalizing reader with
  | nothing => exact .nothing _
  | @act s i outcome s' history t hcarry _ ih =>
    rw [History.inputs_cons _ history, History.inputs_single]
    by_cases hi : i = .input
    · subst hi
      obtain ⟨hinput, hreceives⟩ := carryOut_input hs hcarry
      have htakes := ih hinput (hserves.after 1)
      rw [if_pos rfl, ← Nat.add_assoc]
      rw [Reader.reads_after] at htakes
      exact .input rfl (hserves.reads _) hreceives htakes
    · rw [if_neg hi, Nat.zero_add]
      exact .other hi (ih (((carryOut_keeps hcarry).2.1 hi).trans hs) hserves)
  | flush hflush _ ih => exact ih ((flush_keeps hflush).2.2.1.trans hs) hserves

end Links

/-! ## Runs and their histories -/

section Runs
variable {program : List Instruction} {partners : Array Nat} {pc : Nat} {s t : Interpreter}
  {result : Except Error Unit} {history : History} {runs : List (List Instruction × Except Error Unit)}

theorem RunsBy.linked (h : RunsBy program partners pc s history result t) : Linked s history t := by
  induction h with
  | done _ hflush => exact .flush hflush (.nothing _)
  | next hi hstep _ ih => exact .act ((step_next_iff hi).1 hstep).1 ih
  | failed hi hstep =>
    obtain ⟨e', he, hcarry⟩ := (step_ended_iff hi).1 hstep
    cases he
    exact .act hcarry (.nothing _)

theorem Recorded.linked (h : Recorded s runs history t) : Linked s history t := by
  induction h with
  | nothing => exact .nothing _
  | refused _ _ ih => exact ih
  | next _ hrun _ ih => exact hrun.linked.append ih

theorem RunsBy.steps (h : RunsBy program partners pc s history result t) :
    ∃ n, Interpreter.steps program partners n pc s = .ended (result, t) := by
  induction h with
  | done hpc hflush => exact ⟨1, Execution.steps_one_ended (by simp only [step, List.getElem?_toArray, hpc, hflush])⟩
  | next _ hstep _ ih =>
    obtain ⟨n, hn⟩ := ih
    exact ⟨n + 1, by rw [Interpreter.steps, Execution.steps_succ hstep]; exact hn⟩
  | failed _ hstep => exact ⟨1, Execution.steps_one_ended hstep⟩

theorem runsBy_of_steps {n : Nat} (h : Interpreter.steps program partners n pc s = .ended (result, t)) :
    ∃ history, RunsBy program partners pc s history result t := by
  induction n generalizing pc s with
  | zero => cases h
  | succ n ih =>
    cases hi : program[pc]? with
    | none =>
      have hlast : step program.toArray partners pc s = .ended s.flush := by
        simp only [step, List.getElem?_toArray, hi]
      rw [Interpreter.steps, Execution.steps, hlast] at h
      exact ⟨[], .done hi (Execution.Step.ended.inj h)⟩
    | some i =>
      cases hstep : step program.toArray partners pc s with
      | next pc' s' =>
        rw [Interpreter.steps, Execution.steps_succ hstep] at h
        obtain ⟨history, hrun⟩ := ih h
        exact ⟨_, .next hi hstep hrun⟩
      | ended ending =>
        rw [Interpreter.steps, Execution.steps, hstep] at h
        cases h
        obtain ⟨e, rfl, -⟩ := (step_ended_iff hi).1 hstep
        exact ⟨_, .failed hi hstep⟩

theorem Recorded.runsInTurn (h : Recorded s runs history t) : RunsInTurn s runs t := by
  induction h with
  | nothing => exact .nothing _
  | refused hcause _ ih => exact .next (show run _ 0 _ = _ by simp only [run, hcause]) ih
  | next hp hrun _ ih =>
    obtain ⟨fuel, hends⟩ := (ends_iff hp).2 hrun.steps
    exact .next hends ih

theorem Recorded.of_runsInTurn (h : RunsInTurn s runs t) : ∃ history, Recorded s runs history t := by
  induction h with
  | nothing => exact ⟨[], .nothing _⟩
  | @next s program fuel result s' runs t hrun _ ih =>
    obtain ⟨others, hothers⟩ := ih
    cases hp : loopPartners program with
    | error cause =>
      simp only [run, hp] at hrun
      cases hrun
      exact ⟨others, .refused hp hothers⟩
    | ok partners =>
      obtain ⟨n, hn⟩ := (ends_iff hp).1 ⟨fuel, hrun⟩
      obtain ⟨first, hfirst⟩ := runsBy_of_steps hn
      exact ⟨first ++ others, .next hp hfirst hothers⟩

end Runs

end Interpreter

end Brainfuck
