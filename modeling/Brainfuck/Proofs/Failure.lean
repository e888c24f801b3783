import Brainfuck.Interpreter.Trace
import Brainfuck.Proofs.Brackets
import Brainfuck.Proofs.Runs
/-!
# Where a failed run stops

`failed_run`: a run that ends with an error stops at the first instruction of its trace that fails, or at the flush
behind the last one, and leaves behind what it found there. `serves_ofItems`: a reader from a script tries interrupted
calls again.
-/

namespace Brainfuck

/-! ## Reads and writes in a row -/

namespace Reader

theorem Retried.ne_interrupted {calls : Nat → Option Item} {k k' : Nat} {answer : Option Item}
    (h : Retried calls k answer k') : answer ≠ some (.fault .interrupted) := by
  induction h with
  | answered hne => exact hne
  | again _ _ ih => exact ih

theorem Retried.cons {items : List Item} {k k' : Nat} {answer : Option Item} (item : Item)
    (h : Retried (fun n => items[n]?) k answer k') :
    Retried (fun n => (item :: items)[n]?) (k + 1) answer (k' + 1) := by
  induction h with
  | @answered k hne => exact Retried.answered hne
  | again hcall _ ih => exact .again hcall ih

theorem read_keeps (r : Reader) : r.read.2.answer = r.answer ∧ r.read.2.reads = r.reads + 1 := by
  obtain ⟨answer, reads, consumed⟩ := r
  unfold read
  dsimp only
  split <;> exact ⟨rfl, rfl⟩

theorem answer_after (n : Nat) (r : Reader) : (after n r).answer = r.answer := by
  induction n with
  | zero => rfl
  | succ n ih => rw [after, (read_keeps _).1, ih]

theorem reads_after (n : Nat) (r : Reader) : (after n r).reads = r.reads + n := by
  induction n with
  | zero => rfl
  | succ n ih => rw [after, (read_keeps _).2, ih, Nat.add_assoc]

theorem after_one (r : Reader) : after 1 r = r.read.2 := rfl

theorem after_add (m n : Nat) (r : Reader) : after (m + n) r = after n (after m r) := by
  induction n with
  | zero => rfl
  | succ n ih => rw [← Nat.add_assoc, after, ih, after]

theorem read_error_iff {r : Reader} {f : StreamFault} :
    r.read.1 = .error f ↔ r.answer r.reads = some (.fault f) ∧ f ≠ .unexpectedEof := by
  obtain ⟨answer, reads, consumed⟩ := r
  unfold read
  dsimp only
  split
  next h => simp [h]
  next h => simp [h]
  next h =>
    simp only [h, reduceCtorEq, Option.some.injEq, Item.fault.injEq, false_iff, not_and, not_not]
    exact Eq.symm
  next f' hne h =>
    simp only [h, Except.error.injEq, Option.some.injEq, Item.fault.injEq, iff_self_and]
    rintro rfl rfl
    exact hne rfl

theorem callsBefore_zero (items : List Item) : callsBefore items 0 = 0 := by
  cases items <;> rfl

theorem retried_script (items : List Item) (n : Nat) :
    Retried (fun k => items[k]?) (callsBefore items n)
      (items.filter fun item => item ≠ .fault .interrupted)[n]? (callsBefore items (n + 1)) := by
  induction items generalizing n with
  | nil =>
    have hend : callsBefore [] n = n := by cases n <;> rfl
    rw [hend]
    exact .answered (by simp)
  | cons item items ih =>
    by_cases hitem : item = .fault .interrupted
    · rw [List.filter_cons_of_neg (by simpa using hitem), callsBefore, if_pos hitem]
      cases n with
      | zero =>
        -- The first read begins with the interrupted call.
        have hrest := (ih 0).cons item
        rw [callsBefore_zero] at hrest ⊢
        exact .again (by simpa using hitem) hrest
      | succ n =>
        rw [callsBefore, if_pos hitem]
        exact (ih (n + 1)).cons item
    · rw [List.filter_cons_of_pos (by simpa using hitem), callsBefore, if_neg hitem]
      cases n with
      | zero =>
        rw [callsBefore_zero, callsBefore_zero]
        exact .answered (by simpa using hitem)
      | succ n =>
        rw [callsBefore, if_neg hitem]
        exact (ih n).cons item

/-- A reader from a script skips what the script interrupts. -/
theorem serves_ofItems (items : List Item) : (ofItems items).Serves (fun k => items[k]?) (callsBefore items) := by
  refine ⟨callsBefore_zero items, fun n => ?_⟩
  have hanswer : (ofItems items).answer n = (items.filter fun item => item ≠ .fault .interrupted)[n]? :=
    List.getElem?_toArray
  rw [hanswer]
  exact retried_script items n

end Reader

/-- The writer when it has accepted the bytes. -/
def Writer.accept (bytes : List UInt8) (w : Writer) : Writer :=
  { w with bytes := w.bytes ++ bytes.toArray, writes := w.writes + bytes.length }

theorem Writer.accept_append (p q : List UInt8) (w : Writer) : w.accept (p ++ q) = (w.accept p).accept q := by
  simp [accept, Nat.add_assoc]

namespace Interpreter

/-! ## How an instruction fails -/

section Instructions
variable {u t : Interpreter} {e : Error}

theorem moveHead_eq (u : Interpreter) (offset : Int) : u.moveHead offset =
    if greatestPosition < u.head + offset then (.error .headOverflow, u)
    else if (u.head : Int) + offset < 0 then (.error .tapeUnderflow, u)
    else if (u.tape.size : Int) ≤ u.head + offset then (.error .tapeOverflow, u)
    else (.ok (), { u with head := ((u.head : Int) + offset).toNat }) := by
  unfold moveHead movedHead
  dsimp only
  split_ifs <;> rfl

theorem moveHead_error_iff {offset : Int} :
    u.moveHead offset = (.error e, t) ↔ Fails (.moveHead offset) u e t := by
  rw [moveHead_eq]
  constructor
  · intro h
    split_ifs at h with hgreat hlow hhigh <;> cases h
    · exact .headOverflow hgreat
    · exact .underflow hlow
    · exact .overflow hhigh (by omega)
  · intro h
    cases h with
    | underflow hlow => rw [if_neg (by unfold greatestPosition; omega), if_pos hlow]
    | overflow hhigh hgreat => rw [if_neg (by omega), if_neg (by omega), if_pos hhigh]
    | headOverflow hgreat => rw [if_pos hgreat]

theorem readCell_eq (u : Interpreter) : u.readCell =
    match u.input with
    | none => (.ok (), u.setCell 0)
    | some reader =>
      match reader.read.1 with
      | .ok b => (.ok (), { u.setCell b with input := some (reader.after 1) })
      | .error f => (.error (.io (.fault f)), { u with input := some (reader.after 1) }) := by
  unfold readCell
  cases u.input with
  | none => rfl
  | some reader =>
    simp only [Reader.after_one]
    rcases reader.read with ⟨_ | _, reader'⟩ <;> rfl

theorem readCell_error_iff : u.readCell = (.error e, t) ↔ Fails .input u e t := by
  rw [readCell_eq]
  constructor
  · intro h
    split at h
    · cases h
    next reader hreader =>
      split at h
      · cases h
      next f hread =>
        obtain ⟨hanswer, hne⟩ := Reader.read_error_iff.1 hread
        cases h
        exact .input hreader hanswer hne
  · intro h
    cases h with
    | input hreader hanswer hne => simp only [hreader, Reader.read_error_iff.2 ⟨hanswer, hne⟩]

theorem writeCell_eq (u : Interpreter) : u.writeCell =
    match u.output with
    | none => (.ok (), u)
    | some writer =>
      match writer.onWrite writer.writes with
      | none => (.ok (), { u with output := some (writer.accept [u.cell]) })
      | some e => (.error (.io e), { u with output := some { writer with writes := writer.writes + 1 } }) := by
  obtain ⟨tape, head, input, _ | ⟨bytes, writes, flushes, onWrite, onFlush⟩⟩ := u
  · rfl
  · unfold writeCell Writer.write
    dsimp only
    cases onWrite writes with
    | none => simp [Writer.accept, cell]
    | some e => rfl

theorem writeCell_error_iff : u.writeCell = (.error e, t) ↔ Fails .output u e t := by
  rw [writeCell_eq]
  constructor
  · intro h
    split at h
    · cases h
    next writer hwriter =>
      split at h
      · cases h
      next cause hrefused =>
        cases h
        exact .output hwriter hrefused
  · intro h
    cases h with
    | output hwriter hrefused => simp only [hwriter, hrefused]

theorem flush_eq (u : Interpreter) : u.flush =
    match u.output with
    | none => (.ok (), u)
    | some writer =>
      (match writer.onFlush writer.flushes with
        | none => .ok ()
        | some e => .error (.io e),
        { u with output := some { writer with flushes := writer.flushes + 1 } }) := by
  obtain ⟨tape, head, input, _ | ⟨bytes, writes, flushes, onWrite, onFlush⟩⟩ := u
  · rfl
  · unfold flush Writer.flush
    dsimp only
    cases onFlush flushes <;> rfl

theorem flush_error_iff : u.flush = (.error e, t) ↔ FlushFails u e t := by
  rw [flush_eq]
  constructor
  · intro h
    split at h
    · cases h
    next writer hwriter =>
      rw [Prod.mk.injEq] at h
      obtain ⟨hresult, rfl⟩ := h
      split at hresult
      · cases hresult
      next cause hrefused =>
        cases hresult
        exact .intro hwriter hrefused
  · intro h
    obtain ⟨hwriter, hrefused⟩ := h
    simp only [hwriter, hrefused]

theorem causes_of_fails {i : Instruction} (h : Fails i u e t) : Causes i u e := by
  cases h with
  | underflow hlow =>
    constructor <;> simp [greatestPosition]
    all_goals omega
  | overflow hhigh hgreat =>
    constructor <;> simp [greatestPosition] at *
    all_goals omega
  | headOverflow hgreat => 
    constructor <;> simp [greatestPosition] at *
    all_goals omega
  | input hreader hanswer hne =>
    constructor <;> simp
    exact ⟨_, hreader, _, hanswer, hne⟩
  | output hwriter hrefused =>
    constructor <;> simp
    exact ⟨_, hwriter, _, hrefused⟩

end Instructions

/-! ## Steps of a trace -/

section Steps
variable {program : List Instruction} {partners : Array Nat} {pc : Nat} {u t : Interpreter} {e : Error}
  {i : Instruction}

theorem after_ended_iff {outcome : Except Error Unit × Interpreter} :
    after pc outcome = .ended (.error e, t) ↔ outcome = (.error e, t) := by
  constructor
  · intro h
    obtain ⟨e', he, houtcome⟩ := after_eq_ended h
    cases he
    exact houtcome
  · rintro rfl
    rfl

theorem step_error_iff (hi : program[pc]? = some i) :
    step program.toArray partners pc u = .ended (.error e, t) ↔ Fails i u e t := by
  unfold step
  rw [List.getElem?_toArray, hi]
  cases i with
  | moveHead offset => exact after_ended_iff.trans moveHead_error_iff
  | input => exact after_ended_iff.trans readCell_error_iff
  | output => exact after_ended_iff.trans writeCell_error_iff
  | increment | startLoop | finishLoop =>
    constructor
    · intro h
      cases h
    · intro h
      cases h

theorem input_of_quiet (h : t.input = u.input) : t.input = u.input.map (Reader.after 0) := by
  rw [h]
  cases u.input <;> rfl

theorem output_of_quiet (h : t.output = u.output) : t.output = u.output.map (Writer.accept []) := by
  rw [h]
  cases u.output <;> simp [Writer.accept]

theorem streams_of_step (hi : program[pc]? = some i) {pc' : Nat}
    (h : step program.toArray partners pc u = .next pc' t) :
    t.input = u.input.map (Reader.after (Trace.inputs [(i, u)])) ∧
      t.output = u.output.map (Writer.accept (Trace.outputs [(i, u)])) := by
  unfold step at h
  rw [List.getElem?_toArray, hi] at h
  cases i with
  | increment amount =>
    cases h
    exact ⟨input_of_quiet rfl, output_of_quiet rfl⟩
  | moveHead offset =>
    have hmove := (after_eq_next h).2
    rw [moveHead_eq] at hmove
    split_ifs at hmove <;> cases hmove
    exact ⟨input_of_quiet rfl, output_of_quiet rfl⟩
  | input =>
    have hread := (after_eq_next h).2
    rw [readCell_eq] at hread
    split at hread
    next hinput =>
      cases hread
      exact ⟨by rw [hinput]; exact hinput, output_of_quiet rfl⟩
    next reader hinput =>
      split at hread
      · cases hread
        exact ⟨by rw [hinput]; rfl, output_of_quiet rfl⟩
      · cases hread
  | output =>
    have hwrite := (after_eq_next h).2
    rw [writeCell_eq] at hwrite
    split at hwrite
    next houtput =>
      cases hwrite
      exact ⟨input_of_quiet rfl, by rw [houtput]; rfl⟩
    next writer houtput =>
      split at hwrite
      · cases hwrite
        exact ⟨input_of_quiet rfl, by rw [houtput]; rfl⟩
      · cases hwrite
  | startLoop | finishLoop =>
    cases h
    exact ⟨input_of_quiet rfl, output_of_quiet rfl⟩

/-- Jumps stay within the program, or go right behind it. -/
theorem pc_le_of_step (hp : loopPartners program = .ok partners) (hi : program[pc]? = some i) {pc' : Nat}
    (h : step program.toArray partners pc u = .next pc' t) : pc' ≤ program.length := by
  have hpc : pc < program.length := (List.getElem?_eq_some_iff.1 hi).1
  obtain ⟨hsize, hentries⟩ := loopPartners_lt hp
  have hpartner : partners.getD pc 0 < program.length := by
    rw [Array.getD_eq_getD_getElem?, Array.getElem?_eq_getElem (by omega)]
    exact hentries _ (Array.getElem_mem _)
  unfold step at h
  rw [List.getElem?_toArray, hi] at h
  cases i with
  | increment amount =>
    cases h
    omega
  | moveHead | input | output =>
    have := (after_eq_next h).1
    omega
  | startLoop | finishLoop =>
    cases h
    split <;> omega

end Steps

/-! ## Traces -/

section Traces
variable {program : List Instruction} {partners : Array Nat} {s u : Interpreter} {trace : Trace} {pc : Nat}

theorem Trace.inputs_append (p q : Trace) : inputs (p ++ q) = inputs p + inputs q := List.countP_append

theorem Trace.outputs_append (p q : Trace) : outputs (p ++ q) = outputs p ++ outputs q := List.filterMap_append

theorem Executes.steps (h : Executes program partners s trace pc u) :
    Interpreter.steps program partners trace.length 0 s = .next pc u := by
  induction h with
  | start => rfl
  | next _ _ hstep ih =>
    rw [Interpreter.steps] at ih ⊢
    rw [List.length_append, List.length_singleton, Execution.steps_add ih]
    exact Execution.steps_one hstep

theorem executes_of_steps {n : Nat} (h : Interpreter.steps program partners n 0 s = .next pc u) :
    ∃ trace, Executes program partners s trace pc u := by
  induction n generalizing pc u with
  | zero =>
    cases h
    exact ⟨[], .start⟩
  | succ n ih =>
    obtain ⟨pc', u', hn, hstep⟩ := Execution.steps_last h
    obtain ⟨trace, hx⟩ := ih hn
    cases hi : program[pc']? with
    | none =>
      -- Behind the last instruction a run does not go on.
      simp only [step, List.getElem?_toArray, hi] at hstep
      cases hstep
    | some i => exact ⟨trace ++ [(i, u')], hx.next hi hstep⟩

theorem Executes.streams (h : Executes program partners s trace pc u) :
    u.input = s.input.map (Reader.after trace.inputs) ∧ u.output = s.output.map (Writer.accept trace.outputs) := by
  induction h with
  | start => exact ⟨input_of_quiet rfl, output_of_quiet rfl⟩
  | next _ hi hstep ih =>
    obtain ⟨hinput, houtput⟩ := streams_of_step hi hstep
    rw [hinput, houtput, ih.1, ih.2, Trace.inputs_append, Trace.outputs_append, Option.map_map, Option.map_map]
    constructor
    · congr 1
      funext r
      exact (Reader.after_add _ _ r).symm
    · congr 1
      funext w
      exact (Writer.accept_append _ _ w).symm

theorem Executes.pc_le (hp : loopPartners program = .ok partners) (h : Executes program partners s trace pc u) :
    pc ≤ program.length := by
  cases h with
  | start => exact Nat.zero_le _
  | next _ hi hstep => exact pc_le_of_step hp hi hstep

theorem Executes.onTape (h : Executes program partners s trace pc u) (hs : s.head < s.tape.size) :
    u.tape.size = s.tape.size ∧ u.head < s.tape.size := onTape_of_steps h.steps hs

/-- What a trace holds has succeeded. -/
theorem Executes.succeeded (h : Executes program partners s trace pc u) :
    ∀ v ∈ trace, ∀ e t, ¬ Fails v.1 v.2 e t := by
  induction h with
  | start =>
    intro v hv
    cases hv
  | next _ hi hstep ih =>
    intro v hv e t hfails
    rcases List.mem_append.1 hv with hv | hv
    · exact ih v hv e t hfails
    · obtain rfl := List.mem_singleton.1 hv
      rw [(step_error_iff hi).2 hfails] at hstep
      cases hstep

theorem Executes.ends (h : Executes program partners s trace pc u) {ending : Except Error Unit × Interpreter}
    (hstep : step program.toArray partners pc u = .ended ending) :
    Interpreter.steps program partners (trace.length + 1) 0 s = .ended ending := by
  have hsteps := h.steps
  rw [Interpreter.steps] at hsteps ⊢
  rw [Execution.steps_add hsteps]
  exact Execution.steps_one_ended hstep

/-- A run ends where an instruction of its trace fails, or with the flush behind the last one. -/
theorem ends_iff_trace (hp : loopPartners program = .ok partners) {result : Except Error Unit} {t : Interpreter} :
    Ends program s result t ↔ ∃ trace pc u, Executes program partners s trace pc u ∧
      ((∃ i e, program[pc]? = some i ∧ result = .error e ∧ Fails i u e t) ∨
        pc = program.length ∧ u.flush = (result, t)) := by
  rw [ends_iff hp]
  constructor
  · rintro ⟨n, hn⟩
    obtain ⟨k, pc, u, hk, hlast⟩ := Execution.last_step hn
    obtain ⟨trace, hx⟩ := executes_of_steps hk
    refine ⟨trace, pc, u, hx, ?_⟩
    cases hi : program[pc]? with
    | some i =>
      rcases ended_cases hlast with ⟨hnone, -⟩ | ⟨e, rfl, -⟩
      · rw [List.getElem?_toArray, hi] at hnone
        cases hnone
      · exact .inl ⟨i, e, rfl, rfl, (step_error_iff hi).1 hlast⟩
    | none =>
      simp only [step, List.getElem?_toArray, hi] at hlast
      have hle := hx.pc_le hp
      have hge := List.getElem?_eq_none_iff.1 hi
      exact .inr ⟨by omega, Execution.Step.ended.inj hlast⟩
  · rintro ⟨trace, pc, u, hx, ⟨i, e, hi, rfl, hfails⟩ | ⟨rfl, hflush⟩⟩
    · exact ⟨trace.length + 1, hx.ends ((step_error_iff hi).2 hfails)⟩
    · refine ⟨trace.length + 1, hx.ends ?_⟩
      simp [step, hflush]

/-- A run of a program whose loops do not pair up does nothing; every other run ends as its trace says. -/
theorem ends_cases {result : Except Error Unit} {t : Interpreter} (h : Ends program s result t) :
    (¬ Balanced program ∧ (∃ cause, result = .error (.inconsistent cause)) ∧ t = s) ∨
      Balanced program ∧ ∃ partners trace pc u, loopPartners program = .ok partners ∧
        Executes program partners s trace pc u ∧
        ((∃ i e, program[pc]? = some i ∧ result = .error e ∧ Fails i u e t) ∨
          pc = program.length ∧ u.flush = (result, t)) := by
  by_cases hb : Balanced program
  · obtain ⟨partners, hp⟩ := exists_loopPartners hb
    obtain ⟨trace, pc, u, hx, hend⟩ := (ends_iff_trace hp).1 h
    exact .inr ⟨hb, partners, trace, pc, u, hp, hx, hend⟩
  · obtain ⟨fuel, hrun⟩ := h
    obtain ⟨cause, -, hcause⟩ := run_of_not_balanced hb fuel s
    rw [hcause] at hrun
    cases hrun
    exact .inl ⟨hb, ⟨cause, rfl⟩, rfl⟩

/-! ## What is left behind -/

variable {t : Interpreter} {e : Error} {i : Instruction}

theorem Executes.bytes (h : Executes program partners s trace pc u) :
    u.output.map Writer.bytes = s.output.map fun w => w.bytes ++ trace.outputs.toArray := by
  rw [h.streams.2, Option.map_map]
  rfl

theorem Executes.flushes (h : Executes program partners s trace pc u) :
    u.output.map Writer.flushes = s.output.map Writer.flushes := by
  rw [h.streams.2, Option.map_map]
  rfl

theorem leaves_of_fails (h : Executes program partners s trace pc u) (hfails : Fails i u e t) :
    Leaves s trace u t (if i = .input then 1 else 0) 0 := by
  cases hfails with
  | underflow | overflow | headOverflow => exact ⟨rfl, rfl, h.streams.1, h.bytes, h.flushes⟩
  | @input u reader f hreader =>
    refine ⟨rfl, rfl, ?_, h.bytes, h.flushes⟩
    have hinput := h.streams.1
    rw [hreader] at hinput
    cases hs : s.input with
    | none =>
      rw [hs] at hinput
      cases hinput
    | some r =>
      rw [hs] at hinput
      cases hinput
      exact congrArg some (Reader.after_add _ _ r).symm
  | @output u writer cause hwriter =>
    have hbytes := h.bytes
    have hflushes := h.flushes
    rw [hwriter] at hbytes hflushes
    exact ⟨rfl, rfl, h.streams.1, hbytes, hflushes⟩

theorem leaves_of_flushFails (h : Executes program partners s trace pc u) (hfails : FlushFails u e t) :
    Leaves s trace u t 0 1 := by
  obtain ⟨hwriter, -⟩ := hfails
  have hbytes := h.bytes
  have hflushes := h.flushes
  rw [hwriter] at hbytes hflushes
  refine ⟨rfl, rfl, h.streams.1, hbytes, ?_⟩
  cases hs : s.output with
  | none =>
    rw [hs] at hflushes
    cases hflushes
  | some w =>
    rw [hs] at hflushes
    exact congrArg (Option.map (· + 1)) hflushes

/-- The calls behind a read that fails: all but the last are interrupted, and the last is the fault. -/
theorem retried_of_fails (h : Executes program partners s trace pc u) (hfails : Fails .input u e t) {reader : Reader}
    {calls : Nat → Option Reader.Item} {place : Nat → Nat} (hs : s.input = some reader)
    (hserves : reader.Serves calls place) :
    ∃ f, e = .io (.fault f) ∧ f ≠ .unexpectedEof ∧ f ≠ .interrupted ∧
      Reader.Retried calls (place (reader.reads + trace.inputs)) (some (.fault f))
        (place (reader.reads + trace.inputs + 1)) := by
  cases hfails with
  | @input u reader' f hreader hanswer hne =>
    have hinput := h.streams.1
    rw [hreader, hs] at hinput
    cases hinput
    have hread := hserves.reads (reader.reads + trace.inputs)
    rw [Reader.answer_after, Reader.reads_after] at hanswer
    rw [hanswer] at hread
    refine ⟨f, rfl, hne, ?_, hread⟩
    rintro rfl
    exact hread.ne_interrupted rfl

end Traces

theorem failed_run {program : List Instruction} {s t : Interpreter} {e : Error} (hs : s.head < s.tape.size)
    (h : Ends program s (.error e) t) :
    (¬ Balanced program → (∃ cause, e = .inconsistent cause) ∧ t = s) ∧
    (Balanced program → ∃ partners trace pc u, loopPartners program = .ok partners ∧
      Executes program partners s trace pc u ∧ (∀ v ∈ trace, ∀ e t, ¬ Fails v.1 v.2 e t) ∧
      u.tape.size = s.tape.size ∧ u.head < s.tape.size ∧
      ((∃ i, program[pc]? = some i ∧ Fails i u e t ∧ Causes i u e ∧
          Leaves s trace u t (if i = .input then 1 else 0) 0 ∧
          (i = .input → ∀ reader calls place, s.input = some reader → reader.Serves calls place →
            ∃ f, e = .io (.fault f) ∧ f ≠ .unexpectedEof ∧ f ≠ .interrupted ∧
              Reader.Retried calls (place (reader.reads + trace.inputs)) (some (.fault f))
                (place (reader.reads + trace.inputs + 1)))) ∨
        (pc = program.length ∧ FlushFails u e t ∧ Leaves s trace u t 0 1))) := by
  rcases ends_cases h with ⟨hb, ⟨cause, he⟩, ht⟩ | ⟨hb, partners, trace, pc, u, hp, hx, hend⟩
  · cases he
    exact ⟨fun _ => ⟨⟨cause, rfl⟩, ht⟩, fun hbalanced => absurd hbalanced hb⟩
  · refine ⟨fun hunbalanced => absurd hb hunbalanced, fun _ => ?_⟩
    obtain ⟨hsize, hhead⟩ := hx.onTape hs
    refine ⟨partners, trace, pc, u, hp, hx, hx.succeeded, hsize, hhead, ?_⟩
    rcases hend with ⟨i, _, hi, he, hfails⟩ | ⟨hpc, hflush⟩
    · cases he
      refine .inl ⟨i, hi, hfails, causes_of_fails hfails, leaves_of_fails hx hfails, ?_⟩
      rintro rfl reader calls place hreader hserves
      exact retried_of_fails hx hfails hreader hserves
    · have hfails := flush_error_iff.1 hflush
      exact .inr ⟨hpc, hfails, leaves_of_flushFails hx hfails⟩

/-- A read that breaks behind an interrupted call, and an end of a loop that has no start. -/
theorem failed_run_brokenPipe :
    let s : Interpreter := .create 2
      (some (.ofItems [.byte 104, .fault .interrupted, .fault .brokenPipe])) (some .unbounded)
    let echo : List Instruction := [.input, .output, .input]
    let stray : List Instruction := [.output, .finishLoop]
    (Balanced echo ∧ ∃ t, Ends echo s (.error (.io (.fault .brokenPipe))) t ∧ t.tape = #[104, 0] ∧
      t.output.map Writer.bytes = some #[104] ∧
      ∃ partners trace pc u, Executes echo partners s trace pc u ∧ t.tape = u.tape ∧
        t.output.map Writer.bytes = s.output.map fun w => w.bytes ++ trace.outputs.toArray) ∧
    (¬ Balanced stray ∧ ∃ e t, Ends stray s (.error e) t ∧ (∃ cause, e = .inconsistent cause) ∧ t = s) := by
  intro s echo stray
  have hs : s.head < s.tape.size := by decide
  constructor
  · have hb : Balanced echo := by decide
    obtain ⟨t, ht, htape, hbytes⟩ : ∃ t, Ends echo s (.error (.io (.fault .brokenPipe))) t ∧
        t.tape = #[104, 0] ∧ t.output.map Writer.bytes = some #[104] := ⟨_, ⟨3, rfl⟩, rfl, rfl⟩
    obtain ⟨partners, trace, pc, u, -, hx, -, -, -, hstop⟩ := (failed_run hs ht).2 hb
    refine ⟨hb, t, ht, htape, hbytes, partners, trace, pc, u, hx, ?_⟩
    rcases hstop with ⟨i, -, -, -, hleaves, -⟩ | ⟨-, -, hleaves⟩
    · exact ⟨hleaves.tape, hleaves.bytes⟩
    · exact ⟨hleaves.tape, hleaves.bytes⟩
  · have hb : ¬ Balanced stray := by decide
    obtain ⟨e, t, ht⟩ : ∃ e t, Ends stray s (.error e) t := ⟨_, _, ⟨1, rfl⟩⟩
    exact ⟨hb, e, t, ht, (failed_run hs ht).1 hb⟩

end Interpreter

end Brainfuck
