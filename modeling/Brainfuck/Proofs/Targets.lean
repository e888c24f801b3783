import Brainfuck.Proofs.C.Reading
import Brainfuck.Proofs.C.Refinement
import Brainfuck.Proofs.Coalescing
import Brainfuck.Proofs.Llvm.Refinement
import Brainfuck.Proofs.Refinement
/-!
# The two targets agree

`c_text_faithful`: read line by line, the C text of a program does what its linear code does, as long as the
linear code stays on the tape and heads and offsets are numbers of 64 bits. So where the interpreter succeeds
on a source, its C and its LLVM program do the same exchanges and write what the interpreter writes.
-/

namespace Brainfuck

open Interpreter (Ends)

section Moves
variable {tapeLength : Nat} {program : List Instruction} {code : List Op} {input : List UInt8}

/-- A move that is carried out keeps the head where it is kept. -/
theorem keepsHead_moveHead {p : Int → Prop} (h : Linear.KeepsHead p code.toArray input) {n k : Nat}
    {m : Linear.Machine} {offset : Int} (hn : Linear.steps code.toArray n 0 (.start input) = .next k m)
    (hk : code[k]? = some (.moveHead offset)) : p m.head ∧ p (m.head + offset) := by
  have hstep : Linear.step code.toArray k m = .next (k + 1) { m with head := m.head + offset } := by
    simp only [Linear.step, List.getElem?_toArray, hk]
  exact ⟨h n k m hn, h (n + 1) _ _ ((Execution.steps_add hn 1).trans (Execution.steps_one hstep))⟩

theorem movesFit_of_offsets (hcode : IsCode tapeLength program code)
    (hoffsets : ∀ offset, .moveHead offset ∈ program → -2 ^ 63 < offset ∧ offset < 2 ^ 63)
    (hhead : Linear.KeepsHead (fun head => -2 ^ 63 ≤ head ∧ head < 2 ^ 63) code.toArray input) :
    C.MovesFit code input := by
  intro n k m offset hn hk
  have hoffset := hoffsets offset (hcode.moveHead_mem (List.mem_of_getElem? hk))
  have hmoved := (keepsHead_moveHead hhead hn hk).2
  exact ⟨C.Machine.isConstant_iff.2 hoffset, C.Machine.inRange_iff.2 hmoved⟩

/-- On a tape of 64-bit length no move can be too far. -/
theorem movesFit_of_onTape (hN : (tapeLength : Int) ≤ greatestPosition)
    (hhead : Linear.KeepsHead (fun head => 0 ≤ head ∧ head < tapeLength) code.toArray input) :
    C.MovesFit code input := by
  intro n k m offset hn hk
  obtain ⟨hfrom, hto⟩ := keepsHead_moveHead hhead hn hk
  rw [greatestPosition] at hN
  exact ⟨C.Machine.isConstant_iff.2 (by omega), C.Machine.inRange_iff.2 (by omega)⟩

end Moves

/-! ## The text -/

theorem c_text_faithful :
    (∀ program : List Instruction, Balanced program →
      (∀ offset, .moveHead offset ∈ program → -2 ^ 63 < offset ∧ offset < 2 ^ 63) →
      ∀ tapeLength : Nat, 0 < tapeLength → tapeLength ≤ 2 ^ 63 - 1 → ∀ input : List UInt8,
      ∃ code written ls, (lower tapeLength program).result = .ok code ∧
        (Code.ofProgram .c tapeLength program).result = .ok ⟨.c, written⟩ ∧ C.read? written = some ls ∧
        (Linear.StaysOnTape tapeLength code.toArray input →
          Linear.KeepsHead (fun head => -2 ^ 63 ≤ head ∧ head < 2 ^ 63) code.toArray input →
          Execution.Faithful (Linear.step code.toArray) (C.step ls.toArray) C.Agrees
            (.start input) (.start input))) ∧
    ∀ (source : Source) (tapeLength : Nat), 0 < tapeLength → tapeLength ≤ 2 ^ 63 - 1 →
      ∀ (input : List UInt8) (t : Interpreter),
      Ends source.instructions (.fresh tapeLength input) (.ok ()) t →
      ∃ writtenC lsC writtenLlvm lsLlvm mC mLlvm,
        (Code.ofText .c tapeLength source.text).result = .ok ⟨.c, writtenC⟩ ∧
        (Code.ofText .llvm tapeLength source.text).result = .ok ⟨.llvm, writtenLlvm⟩ ∧
        C.read? writtenC = some lsC ∧ Llvm.read? writtenLlvm = some lsLlvm ∧
        C.Returns lsC input mC ∧ Llvm.Returns lsLlvm input mLlvm ∧
        mC.exchanges = mLlvm.exchanges ∧
        t.output.map Writer.bytes = some (Exchange.output mC.exchanges) := by
  constructor
  · intro program h hoffsets tapeLength hN hword input
    obtain ⟨b, rfl⟩ := (balanced_iff_flatten program).1 h
    obtain ⟨code, hlower, hcode⟩ := lower_flatten hN b
    refine ⟨code, C.text code, C.lines code, hlower, Code.ofProgram_result hlower .c, C.read?_text code,
      fun hstays hhead => ?_⟩
    exact C.faithful hcode (by rw [greatestPosition]; omega) (movesFit_of_offsets hcode hoffsets hhead) hstays
  · intro source tapeLength hN hword input t hends
    obtain ⟨b, -, hb⟩ := source.exists_block
    have hgreatest : (tapeLength : Int) ≤ greatestPosition := by rw [greatestPosition]; omega
    obtain ⟨code, hlower, hcode⟩ := lower_flatten hN b.optimised
    rw [← hb] at hlower
    rw [hb] at hends
    obtain ⟨m, ⟨n, hn⟩, hagree, -, hhead⟩ := halts_of_ends hN hcode hends
    have hstays := hhead.stays
    have hC := C.faithful hcode hgreatest (movesFit_of_onTape hgreatest hhead) hstays
    have hLlvm := Llvm.faithful hcode (by omega) hstays
    obtain ⟨i, mC, hi, hagreesC⟩ := hC.halts n m hn
    obtain ⟨j, mLlvm, hj, hagreesLlvm⟩ := hLlvm.halts n m hn
    refine ⟨_, _, _, _, mC, mLlvm, Code.ofText_result hlower .c, Code.ofText_result hlower .llvm,
      C.read?_text code, Llvm.read?_text code, ⟨i, hi⟩, ⟨j, hj⟩, ?_, ?_⟩
    · rw [hagreesC.exchanges, hagreesLlvm.exchanges]
    · rw [hagreesC.exchanges]
      exact hagree.output

theorem c_text_faithful_copyInput :
    (Balanced copyInput ∧ ∃ code written ls, (lower 3 copyInput).result = .ok code ∧
      (Code.ofProgram .c 3 copyInput).result = .ok ⟨.c, written⟩ ∧ C.read? written = some ls ∧
      Linear.StaysOnTape 3 code.toArray [104, 105] ∧
      Execution.Faithful (Linear.step code.toArray) (C.step ls.toArray) C.Agrees (.start [104, 105])
        (.start [104, 105])) ∧
    ∃ (source : Source) (lsC : List C.Line) (lsLlvm : List Llvm.Line) (mC : C.Machine) (mLlvm : Llvm.Machine),
      source.text = ",[.>,]" ∧ C.Returns lsC [104, 105] mC ∧ Llvm.Returns lsLlvm [104, 105] mLlvm ∧
      mC.exchanges = mLlvm.exchanges ∧ Exchange.output mC.exchanges = #[104, 105] := by
  obtain ⟨t, ht, hout⟩ : ∃ t, Ends copyInput (.fresh 3 [104, 105]) (.ok ()) t ∧
      t.output.map Writer.bytes = some #[104, 105] := ⟨_, ⟨20, rfl⟩, rfl⟩
  constructor
  · have hb : Balanced copyInput := by decide
    obtain ⟨code, written, ls, hlower, hwritten, hread, hfaithful⟩ :=
      c_text_faithful.1 copyInput hb (by simp [copyInput]) 3 (by decide) (by decide) [104, 105]
    have hhead := keepsHead_of_ends hb (by decide) hlower ht
    have hword : Linear.KeepsHead (fun head => -2 ^ 63 ≤ head ∧ head < 2 ^ 63) code.toArray [104, 105] :=
      fun n k m hn => by have := hhead n k m hn; omega
    exact ⟨hb, code, written, ls, hlower, hwritten, hread, hhead.stays, hfaithful hhead.stays hword⟩
  · let source : Source := ⟨",[.>,]", by decide⟩
    have e : source.instructions = copyInput := by decide
    obtain ⟨_, lsC, _, lsLlvm, mC, mLlvm, -, -, -, -, hC, hLlvm, hsame, hwrites⟩ :=
      c_text_faithful.2 source 3 (by decide) (by decide) [104, 105] t (e ▸ ht)
    rw [hout] at hwrites
    exact ⟨source, lsC, lsLlvm, mC, mLlvm, rfl, hC, hLlvm, hsame, (Option.some.inj hwrites).symm⟩

end Brainfuck
