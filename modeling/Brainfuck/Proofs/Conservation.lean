import Brainfuck.Proofs.Histories
/-!
# Nothing is lost on the streams

`session_conserves`: what outputs find in their cells is what is written, and inputs take the calls of the reader one
after the other and no further, also across runs and failures. So two readers that agree on the calls taken give the
same session.
-/

namespace Brainfuck

/-! ## Readers that agree for a while -/

namespace Reader

/-- So many answers from now on are the same. -/
def AgreesFor (count : Nat) (r other : Reader) : Prop :=
  ∀ n < count, other.answer (other.reads + n) = r.answer (r.reads + n)

variable {r other : Reader} {calls calls' : Nat → Option Item} {place place' : Nat → Nat}

theorem AgreesFor.after {m n : Nat} (h : AgreesFor (m + n) r other) : AgreesFor n (r.after m) (other.after m) := by
  intro k hk
  rw [answer_after, answer_after, reads_after, reads_after, Nat.add_assoc, Nat.add_assoc]
  exact h (m + k) (by omega)

theorem AgreesFor.first {m n : Nat} (h : AgreesFor (m + n) r other) : AgreesFor m r other :=
  fun k hk => h k (by omega)

/-- The first answer of a reader decides how it reads. -/
theorem AgreesFor.read (h : AgreesFor 1 r other) : other.read.1 = r.read.1 := by
  have hanswer : other.answer other.reads = r.answer r.reads := h 0 Nat.zero_lt_one
  obtain ⟨answer, reads, consumed⟩ := r
  obtain ⟨answer', reads', consumed'⟩ := other
  unfold Reader.read
  dsimp only at hanswer ⊢
  rw [hanswer]
  split <;> rfl

theorem Retried.lt {k k' : Nat} {answer : Option Item} (h : Retried calls k answer k') : k < k' := by
  induction h with
  | answered => exact Nat.lt_succ_self _
  | again _ _ ih => omega

/-- A read looks at no call but its own. -/
theorem Retried.shift {k k' l : Nat} {answer : Option Item} (h : Retried calls k answer k')
    (hcalls : ∀ j, k + j < k' → calls' (l + j) = calls (k + j)) : Retried calls' l answer (l + (k' - k)) := by
  induction h generalizing l with
  | @answered k hne =>
    have hcall : calls' l = calls k := hcalls 0 (Nat.lt_succ_self k)
    rw [← hcall, Nat.add_sub_cancel_left]
    exact .answered (hcall ▸ hne)
  | @again k answer k' hcall hrest ih =>
    have hlt := hrest.lt
    have hsame : calls' l = calls k := hcalls 0 (by omega)
    have hlater := @ih (l + 1) fun j hj => by
      rw [Nat.add_assoc, Nat.add_assoc]
      exact hcalls (1 + j) (by omega)
    rw [show l + (k' - k) = l + 1 + (k' - (k + 1)) by omega]
    exact .again (hsame.trans hcall) hlater

theorem Retried.unique {k k₁ k₂ : Nat} {answer₁ answer₂ : Option Item} (h₁ : Retried calls k answer₁ k₁)
    (h₂ : Retried calls k answer₂ k₂) : answer₁ = answer₂ ∧ k₁ = k₂ := by
  induction h₁ with
  | answered hne =>
    cases h₂ with
    | answered => exact ⟨rfl, rfl⟩
    | again hcall => exact absurd hcall hne
  | again hcall _ ih =>
    cases h₂ with
    | answered hne => exact absurd hcall hne
    | again _ hrest => exact ih hrest

theorem Serves.place_le (h : r.Serves calls place) (first count : Nat) : place first ≤ place (first + count) := by
  induction count with
  | zero => exact Nat.le_refl _
  | succ count ih => exact ih.trans (h.reads (first + count)).lt.le

/-- Readers whose next calls are the same give the same answers, as far as the calls reach. -/
theorem Serves.agreesFor (h : r.Serves calls place) (h' : other.Serves calls' place') {count : Nat}
    (hcalls : ∀ j, place r.reads + j < place (r.reads + count) →
      calls' (place' other.reads + j) = calls (place r.reads + j)) :
    AgreesFor count r other ∧
      place' (other.reads + count) = place' other.reads + (place (r.reads + count) - place r.reads) := by
  induction count with
  | zero => exact ⟨fun n hn => absurd hn (Nat.not_lt_zero n), by simp⟩
  | succ count ih =>
    have hread := h.reads (r.reads + count)
    have hle := h.place_le r.reads count
    have hlt := hread.lt
    rw [Nat.add_assoc] at hread hlt
    obtain ⟨hagrees, hplace⟩ := ih fun j hj => hcalls j (by omega)
    -- The next read begins as many calls further on with both readers.
    have hshifted := @Retried.shift calls calls' _ _ (place' (other.reads + count)) _ hread fun j hj => by
      rw [hplace, Nat.add_assoc, show place (r.reads + count) + j =
        place r.reads + (place (r.reads + count) - place r.reads + j) by omega]
      exact hcalls _ (by omega)
    obtain ⟨hanswer, hnext⟩ := (h'.reads (other.reads + count)).unique hshifted
    constructor
    · intro n hn
      rcases Nat.lt_succ_iff_lt_or_eq.1 hn with hn | rfl
      · exact hagrees n hn
      · exact hanswer
    · rw [← Nat.add_assoc, hnext, hplace]
      omega

end Reader

namespace Interpreter

/-! ## What inputs store -/

theorem Act.Stores.cell {act : Act} {b : UInt8} (h : act.Stores b)
    (hhead : act.before.head < act.before.tape.size) : act.after.cell = b := by
  unfold Interpreter.cell
  rw [h.tape, h.head, Array.getD_eq_getD_getElem?, Array.getElem?_setIfInBounds_self_of_lt hhead, Option.getD_some]

theorem Act.Receives.stored {act : Act} {item : Option Reader.Item} (hi : act.instruction = .input)
    (h : act.Receives item) (hhead : act.before.head < act.before.tape.size) :
    History.stored [act] = (Reader.stored? item).toList := by
  have hcell {b : UInt8} (hstores : act.Stores b) : History.stored [act] = [b] := by
    have hb := hstores.cell hhead
    have hok := hstores.outcome
    obtain ⟨i, before, outcome, after⟩ := act
    dsimp only at hi hok hb
    subst hi hok hb
    rfl
  cases h with
  | byte hstores => exact hcell hstores
  | atEnd hstores => exact hcell hstores
  | announcedEnd hstores => exact hcell hstores
  | @failed f hne herror =>
    obtain ⟨i, before, outcome, after⟩ := act
    dsimp only at hi herror
    subst hi herror
    cases f with
    | unexpectedEof => exact absurd rfl hne
    | _ => rfl

/-- One read stores what its last call holds, since the interrupted ones hold nothing. -/
theorem stored_of_retried {calls : Nat → Option Reader.Item} {k k' : Nat} {item : Option Reader.Item}
    (h : Reader.Retried calls k item k') :
    (List.range' k (k' - k)).filterMap (fun j => Reader.stored? (calls j)) = (Reader.stored? item).toList := by
  induction h with
  | @answered k hne =>
    rw [Nat.add_sub_cancel_left, List.range'_one]
    cases hstored : Reader.stored? (calls k) <;> simp [hstored]
  | @again k item k' hcall hrest ih =>
    have hlt := hrest.lt
    have hnothing : Reader.stored? (calls k) = none := by rw [hcall]; rfl
    rw [show k' - k = k' - (k + 1) + 1 by omega, List.range'_succ, List.filterMap_cons, hnothing]
    exact ih

theorem TakesInOrder.le {calls : Nat → Option Reader.Item} {k k' : Nat} {history : History}
    (h : TakesInOrder calls k history k') : k ≤ k' := by
  induction h with
  | nothing => exact Nat.le_refl _
  | input _ hread _ _ ih => exact hread.lt.le.trans ih
  | other _ _ ih => exact ih

theorem TakesInOrder.stored {calls : Nat → Option Reader.Item} {k k' : Nat} {history : History}
    (h : TakesInOrder calls k history k')
    (hheads : ∀ act ∈ history, act.before.head < act.before.tape.size) :
    history.stored = (List.range' k (k' - k)).filterMap fun j => Reader.stored? (calls j) := by
  induction h with
  | nothing k =>
    rw [Nat.sub_self]
    rfl
  | @input k item k' k'' act history hi hread hreceives hrest ih =>
    have hact := hreceives.stored hi (hheads act List.mem_cons_self)
    have hothers := ih fun act' hact' => hheads act' (List.mem_cons_of_mem act hact')
    have hlt := hread.lt
    have hle := hrest.le
    have hrange : List.range' k (k'' - k) = List.range' k (k' - k) ++ List.range' k' (k'' - k') := by
      rw [show k'' - k = (k' - k) + (k'' - k') by omega, ← List.range'_append_1, Nat.add_sub_cancel' hlt.le]
    rw [History.stored_cons act history, hact, hothers, hrange, List.filterMap_append, stored_of_retried hread]
  | @other k k' act history hi _ ih =>
    rw [History.stored_cons act history, History.stored_of_ne hi, List.nil_append]
    exact ih fun act' hact' => hheads act' (List.mem_cons_of_mem act hact')

/-! ## Another reader -/

section OtherReader
variable {program : List Instruction} {partners : Array Nat} {pc : Nat} {s t : Interpreter} {i : Instruction}
  {outcome result : Except Error Unit} {history : History} {runs : List (List Instruction × Except Error Unit)}
  {reader other : Reader}

theorem carryOut_withReader_of_ne (hi : i ≠ .input) (h : s.carryOut i = (outcome, t)) :
    (s.withReader other).carryOut i = (outcome, t.withReader other) := by
  cases i with
  | increment | startLoop | finishLoop =>
    cases h
    rfl
  | moveHead offset =>
    have hmove : s.moveHead offset = (outcome, t) := h
    have hhead : (s.withReader other).head = s.head := rfl
    have htape : (s.withReader other).tape = s.tape := rfl
    change (s.withReader other).moveHead offset = _
    rw [moveHead_eq] at hmove ⊢
    rw [hhead, htape]
    split_ifs at hmove ⊢ <;> cases hmove <;> rfl
  | input => exact absurd rfl hi
  | output =>
    have hwrite : s.writeCell = (outcome, t) := h
    have houtput : (s.withReader other).output = s.output := rfl
    have hcell : (s.withReader other).cell = s.cell := rfl
    change (s.withReader other).writeCell = _
    rw [writeCell_eq] at hwrite ⊢
    rw [houtput, hcell]
    split at hwrite
    · cases hwrite
      rfl
    · split at hwrite <;> cases hwrite <;> rfl

theorem carryOut_withReader_input (hs : s.input = some reader) (hagrees : reader.AgreesFor 1 other)
    (h : s.carryOut .input = (outcome, t)) :
    (s.withReader other).carryOut .input = (outcome, t.withReader (other.after 1)) := by
  have hread : s.readCell = (outcome, t) := h
  have hinput : (s.withReader other).input = some other := rfl
  change (s.withReader other).readCell = _
  rw [readCell_eq, hs] at hread
  rw [readCell_eq, hinput]
  dsimp only at hread ⊢
  rw [hagrees.read]
  split at hread
  · cases hread
    rfl
  · cases hread
    rfl

/-- An act is the same with another reader, if that one gives the answers that the act asks for. -/
theorem carryOut_withReader (hs : s.input = some reader) (h : s.carryOut i = (outcome, t))
    (hagrees : reader.AgreesFor (History.inputs [⟨i, s, outcome, t⟩]) other) :
    (s.withReader other).carryOut i =
      (outcome, t.withReader (other.after (History.inputs [⟨i, s, outcome, t⟩]))) := by
  rw [History.inputs_single] at hagrees ⊢
  by_cases hi : i = .input
  · subst hi
    exact carryOut_withReader_input hs hagrees h
  · rw [if_neg hi]
    exact carryOut_withReader_of_ne hi h

theorem flush_withReader (h : s.flush = (outcome, t)) : (s.withReader other).flush = (outcome, t.withReader other) := by
  rw [flush_eq] at h ⊢
  have houtput : (s.withReader other).output = s.output := rfl
  rw [houtput]
  split at h <;> cases h <;> rfl

theorem RunsBy.withReader (h : RunsBy program partners pc s history result t) (hs : s.input = some reader)
    (hagrees : reader.AgreesFor history.inputs other) :
    ∃ history', RunsBy program partners pc (s.withReader other) history' result
        (t.withReader (other.after history.inputs)) ∧
      history'.map Act.withoutReaders = history.map Act.withoutReaders := by
  induction h generalizing reader other with
  | done hpc hflush => exact ⟨[], .done hpc (flush_withReader hflush), rfl⟩
  | @next pc i s pc' s' history result t hi hstep _ ih =>
    obtain ⟨hcarry, hplace⟩ := (step_next_iff hi).1 hstep
    rw [History.inputs_cons _ history] at hagrees ⊢
    have hother := carryOut_withReader hs hcarry hagrees.first
    obtain ⟨history', hrun, hsame⟩ := ih (input_of_carryOut hs hcarry) hagrees.after
    rw [Reader.after_add]
    exact ⟨_, .next hi ((step_next_iff hi).2 ⟨hother, hplace⟩) hrun, congrArg (List.cons _) hsame⟩
  | failed hi hstep =>
    obtain ⟨_, he, hcarry⟩ := (step_ended_iff hi).1 hstep
    cases he
    exact ⟨_, .failed hi ((step_ended_iff hi).2 ⟨_, rfl, carryOut_withReader hs hcarry hagrees⟩), rfl⟩

theorem Recorded.withReader (h : Recorded s runs history t) (hs : s.input = some reader)
    (hagrees : reader.AgreesFor history.inputs other) :
    ∃ history', Recorded (s.withReader other) runs history' (t.withReader (other.after history.inputs)) ∧
      history'.map Act.withoutReaders = history.map Act.withoutReaders := by
  induction h generalizing reader other with
  | nothing => exact ⟨[], .nothing _, rfl⟩
  | refused hcause _ ih =>
    obtain ⟨history', hrecorded, hsame⟩ := ih hs hagrees
    exact ⟨history', .refused hcause hrecorded, hsame⟩
  | @next s program partners result s' runs first others t hp hrun _ ih =>
    rw [History.inputs_append] at hagrees ⊢
    obtain ⟨first', hfirst, hsame⟩ := hrun.withReader hs hagrees.first
    have hs' : s'.input = some (reader.after first.inputs) := hrun.linked.input hs
    obtain ⟨others', hothers, hsame'⟩ := ih hs' hagrees.after
    rw [Reader.after_add]
    refine ⟨first' ++ others', .next hp hfirst hothers, ?_⟩
    rw [List.map_append, List.map_append, hsame, hsame']

end OtherReader

/-! ## Sessions -/

/-- With a reader whose calls are the same as far as they are taken, a session is the same, and its reader has been
asked as often. -/
theorem Recorded.withAgreeingReader {s t : Interpreter} {runs : List (List Instruction × Except Error Unit)}
    {history : History} {reader other : Reader} {calls calls' : Nat → Option Reader.Item} {place place' : Nat → Nat}
    (h : Recorded s runs history t) (hs : s.input = some reader) (hserves : reader.Serves calls place)
    (hother : other.Serves calls' place')
    (hcalls : ∀ j, place reader.reads + j < place (reader.reads + history.inputs) →
      calls' (place' other.reads + j) = calls (place reader.reads + j)) :
    ∃ history', Recorded (s.withReader other) runs history' (t.withReader (other.after history.inputs)) ∧
      RunsInTurn (s.withReader other) runs (t.withReader (other.after history.inputs)) ∧
      history'.map Act.withoutReaders = history.map Act.withoutReaders := by
  obtain ⟨hagrees, -⟩ := hserves.agreesFor hother hcalls
  obtain ⟨history', hrecorded, hsame⟩ := h.withReader hs hagrees
  exact ⟨history', hrecorded, hrecorded.runsInTurn, hsame⟩

theorem session_conserves {s t : Interpreter} {runs : List (List Instruction × Except Error Unit)}
    (hs : s.head < s.tape.size) (h : RunsInTurn s runs t) :
    ∃ history, Recorded s runs history t ∧
      (∀ act ∈ history, act.before.head < act.before.tape.size) ∧
      (t.output.map Writer.bytes = s.output.map fun w => w.bytes ++ history.written.toArray) ∧
      (s.output = none → ∀ act ∈ history, act.instruction = .output →
        act.outcome = .ok () ∧ act.after = act.before) ∧
      (s.input = none → ∀ act ∈ history, act.instruction = .input → act.Stores 0) ∧
      ∀ reader calls place, s.input = some reader → reader.Serves calls place →
        t.input = some (reader.after history.inputs) ∧
        (reader.after history.inputs).Serves calls place ∧
        (reader.after history.inputs).reads = reader.reads + history.inputs ∧
        TakesInOrder calls (place reader.reads) history (place (reader.reads + history.inputs)) ∧
        (history.stored =
          (List.range' (place reader.reads) (place (reader.reads + history.inputs) - place reader.reads)).filterMap
            fun j => Reader.stored? (calls j)) ∧
        ∀ other calls' place', other.Serves calls' place' →
          (∀ j, place reader.reads + j < place (reader.reads + history.inputs) →
            calls' (place' other.reads + j) = calls (place reader.reads + j)) →
          ∃ history', Recorded (s.withReader other) runs history' (t.withReader (other.after history.inputs)) ∧
            RunsInTurn (s.withReader other) runs (t.withReader (other.after history.inputs)) ∧
            history'.map Act.withoutReaders = history.map Act.withoutReaders := by
  obtain ⟨history, hrecorded⟩ := Recorded.of_runsInTurn h
  have hlinked : Linked s history t := hrecorded.linked
  have hheads := hlinked.onTape hs
  refine ⟨history, hrecorded, hheads, hlinked.bytes, hlinked.outputs_of_none, hlinked.inputs_of_none, ?_⟩
  intro reader calls place hreader hserves
  have htakes := hlinked.takesInOrder hreader hserves
  have hstored := htakes.stored hheads
  refine ⟨hlinked.input hreader, hserves.after _, Reader.reads_after _ _, htakes, hstored, ?_⟩
  intro other calls' place' hother hcalls
  exact hrecorded.withAgreeingReader hreader hserves hother hcalls

/-- A run that fails at a broken pipe, and one that goes on behind it. What the reader holds further on does not
matter. -/
theorem session_conserves_brokenPipe :
    let taken : List Reader.Item := [.byte 104, .fault .interrupted, .fault .brokenPipe, .byte 105]
    let s : Interpreter := .create 2 (some (.ofItems (taken ++ [.byte 1]))) (some .unbounded)
    let other : Reader := .ofItems (taken ++ [.fault .interrupted, .byte 2])
    let runs : List (List Instruction × Except Error Unit) :=
      [([.input, .output, .input, .output], .error (.io (.fault .brokenPipe))), ([.input, .output], .ok ())]
    s.head < s.tape.size ∧ ∃ t, RunsInTurn s runs t ∧ t.output.map Writer.bytes = some #[104, 105] ∧
      ∃ history, Recorded s runs history t ∧ history.inputs = 3 ∧ history.stored = [104, 105] ∧
        RunsInTurn (s.withReader other) runs (t.withReader (other.after 3)) := by
  intro taken s other runs
  have hs : s.head < s.tape.size := by decide
  obtain ⟨t, ht, hbytes, hreads⟩ : ∃ t, RunsInTurn s runs t ∧ t.output.map Writer.bytes = some #[104, 105] ∧
      t.input.map Reader.reads = some 3 :=
    ⟨_, .next (show run _ 3 _ = _ from rfl) (.next (show run _ 3 _ = _ from rfl) (.nothing _)), rfl, rfl⟩
  obtain ⟨history, hrecorded, -, -, -, -, hserved⟩ := session_conserves hs ht
  obtain ⟨hinput, -, hcount, -, hstored, hother⟩ := hserved _ _ _ rfl (Reader.serves_ofItems _)
  have hinputs : history.inputs = 3 := by
    rw [hinput, Option.map_some, hcount] at hreads
    exact (Nat.zero_add _).symm.trans (Option.some.inj hreads)
  rw [hinputs] at hstored hother
  refine ⟨hs, t, ht, hbytes, history, hrecorded, hinputs, hstored, ?_⟩
  obtain ⟨-, -, hruns, -⟩ := hother other _ _ (Reader.serves_ofItems _) fun j hj => by
    have hbehind : Reader.callsBefore (taken ++ [.byte 1]) 3 = taken.length := by decide
    change Reader.callsBefore (taken ++ [.byte 1]) 0 + j < Reader.callsBefore (taken ++ [.byte 1]) 3 at hj
    rw [Reader.callsBefore_zero, Nat.zero_add, hbehind] at hj
    change (taken ++ [.fault .interrupted, .byte 2])[Reader.callsBefore _ 0 + j]? =
      (taken ++ [.byte 1])[Reader.callsBefore _ 0 + j]?
    rw [Reader.callsBefore_zero, Reader.callsBefore_zero, Nat.zero_add, List.getElem?_append_left hj,
      List.getElem?_append_left hj]
  exact hruns

end Interpreter

end Brainfuck
