import Brainfuck.Proofs.Lockstep
/-!
# Linear code refines the interpreter

`lower_refines`: where the interpreter succeeds, the linear code halts in the same state without touching a
cell outside the tape; where it goes on forever, the code never halts; where it refuses to leave the tape,
the code comes to the refused position. `halts_of_ends` says more of the first case: the head does not even
pass a place outside the tape.
-/

namespace Brainfuck

open Interpreter (Ends RunsForever Refuses)

section Runs
variable {tapeLength : Nat} {input : List UInt8} {b : Block} {code : List Op} {partners : Array Nat}

/-- For each state of the interpreter the machine comes to a state that mirrors it, with the head on the
tape all along. -/
theorem mirrored (hN : 0 < tapeLength) (hcode : IsCode tapeLength b.flatten code)
    (hp : loopPartners b.flatten = .ok partners) {n pc : Nat} {s : Interpreter}
    (hn : Interpreter.steps b.flatten partners n 0 (.fresh tapeLength input) = .next pc s) :
    ∃ k m, Linear.steps code.toArray (k + 1) 0 (.start input) = .next (codePosition b.flatten pc) m ∧
      pc ≤ b.flatten.length ∧ Mirrors tapeLength input s m ∧
      ∀ i ≤ k, ∀ pc' m', Linear.steps code.toArray i 0 (.start input) = .next pc' m' →
        HeadOnTape tapeLength m' := by
  have start : InStep tapeLength input b.flatten 0 0 (.fresh tapeLength input) 1
      (Linear.allocated tapeLength input) := ⟨Nat.zero_le _, rfl, .fresh hN⟩
  obtain ⟨after, -, -, hab⟩ := (lockstep hcode hp).follows start
  obtain ⟨rank, hab⟩ := hab n
  obtain ⟨l, m, hm, hP, hpc, rfl, hmirror⟩ := hab pc s hn
  refine ⟨after n, m, by rw [Linear.steps_from_allocated hcode]; exact hm, hpc, hmirror, ?_⟩
  intro i hi pc' m' hi'
  cases i with
  | zero =>
    cases hi'
    exact ⟨Int.le_refl 0, Int.natCast_pos.2 hN⟩
  | succ i =>
    rw [Linear.steps_from_allocated hcode] at hi'
    exact hP i hi pc' m' hi'

/-- A run of the interpreter that succeeds is matched by one that halts and keeps the head on the tape. -/
theorem halts_of_ends (hN : 0 < tapeLength) (hcode : IsCode tapeLength b.flatten code) {t : Interpreter}
    (h : Ends b.flatten (.fresh tapeLength input) (.ok ()) t) :
    ∃ m, Linear.Halts code.toArray input m ∧ Agree input t m ∧ m.head = t.head ∧
      Linear.KeepsHead (fun head => 0 ≤ head ∧ head < tapeLength) code.toArray input := by
  obtain ⟨partners, hp⟩ := loopPartners_flatten b
  obtain ⟨n, hn⟩ := (Interpreter.ends_iff hp).1 h
  obtain ⟨n', pc, s, hn', hlast⟩ := Execution.last_step hn
  obtain ⟨k, m, hm, hpc, hmirror, hhead⟩ := mirrored hN hcode hp hn'
  rcases Interpreter.ended_cases hlast with ⟨hnone, hflush⟩ | ⟨e, he, -⟩
  · rw [List.getElem?_toArray, List.getElem?_eq_none_iff] at hnone
    obtain rfl : pc = b.flatten.length := by omega
    obtain ⟨t', ht', hagree, hsame⟩ := hmirror.flush
    rw [hflush] at ht'
    cases ht'
    have hhalt : Linear.step code.toArray (codePosition b.flatten b.flatten.length) m = .ended (.halted m) := by
      rw [codePosition, List.take_length, Linear.step, List.getElem?_toArray, hcode.last]
    have hended : Linear.steps code.toArray (k + 1 + 1) 0 (.start input) = .ended (.halted m) := by
      rw [Linear.steps, Execution.steps_add hm, Execution.steps_one_ended hhalt]
    refine ⟨m, ⟨_, hended⟩, hagree, by rw [hmirror.head, hsame], fun i pc' m' hi => ?_⟩
    -- Before the halt the head is on the tape, and behind it there is no state.
    rcases Nat.lt_trichotomy i (k + 1) with hlt | rfl | hgt
    · exact hhead i (by omega) pc' m' hi
    · rw [hm] at hi
      cases hi
      exact hmirror.headOnTape
    · obtain ⟨j, rfl⟩ := Nat.exists_eq_add_of_le hgt
      rw [Linear.steps, Execution.steps_add_ended hended] at hi
      cases hi
  · cases he

/-- Where the interpreter goes on forever, so does the machine. -/
theorem endless_of_runsForever (hN : 0 < tapeLength) (hcode : IsCode tapeLength b.flatten code)
    (h : RunsForever b.flatten (.fresh tapeLength input)) (n : Nat) :
    ∃ pc m, Linear.steps code.toArray n 0 (.start input) = .next pc m := by
  obtain ⟨partners, hp⟩ := loopPartners_flatten b
  have start : InStep tapeLength input b.flatten 0 0 (.fresh tapeLength input) 1
      (Linear.allocated tapeLength input) := ⟨Nat.zero_le _, rfl, .fresh hN⟩
  cases n with
  | zero => exact ⟨_, _, rfl⟩
  | succ n =>
    rw [Linear.steps_from_allocated hcode]
    exact (lockstep hcode hp).endless start ((Interpreter.runsForever_iff hp).1 h) n

/-- Where the interpreter refuses to leave the tape, the machine comes to the refused position. -/
theorem reaches_of_refused (hN : 0 < tapeLength) (hcode : IsCode tapeLength b.flatten code)
    {e : Error} {t : Interpreter} (he : e = .tapeUnderflow ∨ e = .tapeOverflow)
    (h : Ends b.flatten (.fresh tapeLength input) (.error e) t) :
    ∃ position m, Refuses b.flatten (.fresh tapeLength input) t position ∧
      (e = .tapeUnderflow ∧ position < 0 ∨ e = .tapeOverflow ∧ tapeLength ≤ position) ∧
      Linear.Reaches code.toArray input m ∧ Agree input t m ∧ m.head = position := by
  obtain ⟨partners, hp⟩ := loopPartners_flatten b
  obtain ⟨n, hn⟩ := (Interpreter.ends_iff hp).1 h
  obtain ⟨n', pc, s, hn', hlast⟩ := Execution.last_step hn
  obtain ⟨k, m, hm, hpc, hmirror, -⟩ := mirrored hN hcode hp hn'
  rcases Interpreter.ended_cases hlast with
    ⟨-, hflush⟩ | ⟨e', he', ⟨offset, hi, hmove, rfl⟩ | ⟨-, hread⟩ | ⟨-, hwrite⟩⟩
  · obtain ⟨t', ht', -⟩ := hmirror.flush
    rw [hflush] at ht'
    cases ht'
  · cases he'
    rw [List.getElem?_toArray] at hi
    obtain ⟨before, after, hsplit, rfl⟩ := split_at hi
    have hop : code[codePosition b.flatten before.length]? = some (.moveHead offset) := by
      rw [hsplit] at hcode ⊢
      rw [codePosition_append]
      exact hcode.straight rfl
    -- The machine does not check the move that the interpreter refuses.
    have hstep : Linear.step code.toArray (codePosition b.flatten before.length) m =
        .next (codePosition b.flatten before.length + 1) { m with head := m.head + offset } := by
      simp only [Linear.step, List.getElem?_toArray, hop]
    refine ⟨t.head + offset, _, ⟨partners, n', before.length, offset, e, hp, hn', hi, hmove, rfl⟩, ?_,
      ⟨k + 1 + 1, _, (Execution.steps_add hm 1).trans (Execution.steps_one hstep)⟩, ?_, ?_⟩
    · rcases Interpreter.movedHead_error hmove with ⟨rfl, -⟩ | ⟨rfl, hneg⟩ | ⟨rfl, hge⟩
      · simp at he
      · exact .inl ⟨rfl, hneg⟩
      · exact .inr ⟨rfl, by rw [← hmirror.size]; exact hge⟩
    · exact ⟨hmirror.tape, hmirror.input, hmirror.agree.output⟩
    · simp only [hmirror.head]
  · obtain ⟨t', ht', -⟩ := hmirror.readCell
    rw [hread] at ht'
    cases ht'
  · obtain ⟨t', ht', -⟩ := hmirror.writeCell
    rw [hwrite] at ht'
    cases ht'

end Runs

theorem keepsHead_of_ends {program : List Instruction} (h : Balanced program) {tapeLength : Nat}
    (hN : 0 < tapeLength) {code : List Op} (hlower : (lower tapeLength program).result = .ok code)
    {input : List UInt8} {t : Interpreter} (ht : Ends program (.fresh tapeLength input) (.ok ()) t) :
    Linear.KeepsHead (fun head => 0 ≤ head ∧ head < tapeLength) code.toArray input := by
  obtain ⟨b, rfl⟩ := (balanced_iff_flatten program).1 h
  obtain ⟨code', hlower', hcode⟩ := lower_flatten hN b
  rw [hlower] at hlower'
  cases hlower'
  obtain ⟨m, -, -, -, hhead⟩ := halts_of_ends hN hcode ht
  exact hhead

/-! ## The refinement -/

theorem lower_refines (program : List Instruction) (h : Balanced program) (tapeLength : Nat)
    (hN : 0 < tapeLength) (input : List UInt8) :
    ∃ code, (lower tapeLength program).result = .ok code ∧
      (∀ t, Ends program (.fresh tapeLength input) (.ok ()) t →
        ∃ m, Linear.Halts code.toArray input m ∧ Agree input t m ∧ m.head = t.head ∧
          Linear.StaysOnTape tapeLength code.toArray input) ∧
      (RunsForever program (.fresh tapeLength input) → ∀ m, ¬ Linear.Halts code.toArray input m) ∧
      ∀ e t, e = .tapeUnderflow ∨ e = .tapeOverflow → Ends program (.fresh tapeLength input) (.error e) t →
        ∃ position m, Refuses program (.fresh tapeLength input) t position ∧
          (e = .tapeUnderflow ∧ position < 0 ∨ e = .tapeOverflow ∧ tapeLength ≤ position) ∧
          Linear.Reaches code.toArray input m ∧ Agree input t m ∧ m.head = position := by
  obtain ⟨b, rfl⟩ := (balanced_iff_flatten program).1 h
  obtain ⟨code, hlower, hcode⟩ := lower_flatten hN b
  refine ⟨code, hlower, fun t ht => ?_, fun hrun m => ?_, fun e t he ht => reaches_of_refused hN hcode he ht⟩
  · obtain ⟨m, hm, hagree, hhead, hkeeps⟩ := halts_of_ends hN hcode ht
    exact ⟨m, hm, hagree, hhead, hkeeps.stays⟩
  · rintro ⟨n, hn⟩
    obtain ⟨pc, m', hnext⟩ := endless_of_runsForever hN hcode hrun n
    rw [hn] at hnext
    cases hnext

/-- Writes what it reads and leaves it on the tape, up to the first zero. -/
def copyInput : List Instruction := [.input, .startLoop, .output, .moveHead 1, .input, .finishLoop]

theorem lower_refines_copyInput :
    Balanced copyInput ∧
      (∃ t m code, Ends copyInput (.fresh 3 [104, 105]) (.ok ()) t ∧ (lower 3 copyInput).result = .ok code ∧
        Linear.Halts code.toArray [104, 105] m ∧ Agree [104, 105] t m) ∧
      ∃ t m code, Ends copyInput (.fresh 2 [104, 105]) (.error .tapeOverflow) t ∧
        (lower 2 copyInput).result = .ok code ∧ Linear.Reaches code.toArray [104, 105] m ∧ (2 : Int) ≤ m.head := by
  have hb : Balanced copyInput := by decide
  obtain ⟨code, hcode, hok, -⟩ := lower_refines copyInput hb 3 (by decide) [104, 105]
  obtain ⟨code', hcode', -, -, herror⟩ := lower_refines copyInput hb 2 (by decide) [104, 105]
  obtain ⟨m, hm, hagree, -⟩ := hok _ ⟨20, rfl⟩
  obtain ⟨position, m', -, hposition, hm', -, rfl⟩ := herror .tapeOverflow _ (.inr rfl) ⟨20, rfl⟩
  refine ⟨hb, ⟨_, m, code, ⟨20, rfl⟩, hcode, hm, hagree⟩, _, m', code', ⟨20, rfl⟩, hcode', hm', ?_⟩
  simpa using hposition

end Brainfuck
