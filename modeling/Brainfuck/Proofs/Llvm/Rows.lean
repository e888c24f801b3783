import Brainfuck.Proofs.Linear
import Brainfuck.Proofs.Llvm.Listing
/-!
# What a row of lines does

Carried out on a machine that agrees with the linear one, the lines of an operation lead to a machine that
agrees with what the operation makes of the linear one. No value is used before it is defined.
-/

namespace Brainfuck.Llvm

/-! ## Numbers -/

theorem toNat_ofInt {n : Int} (h0 : 0 ≤ n) (h : n < 2 ^ 64) : (UInt64.ofInt n).toNat = n.toNat := by
  rw [UInt64.ofInt, UInt64.toNat_ofNat', Int.emod_eq_of_lt h0 h, Nat.mod_eq_of_lt (by omega)]

/-- A position within the signed range is what its 64 bits say. -/
theorem toInt_ofInt {n : Int} (h0 : -2 ^ 63 ≤ n) (h : n < 2 ^ 63) : (UInt64.ofInt n).toInt64.toInt = n := by
  have e : (UInt64.ofInt n).toInt64.toInt = Int.bmod (UInt64.ofInt n).toNat (2 ^ 64) :=
    BitVec.toInt_eq_toNat_bmod (UInt64.ofInt n).toBitVec
  rw [e, UInt64.ofInt, UInt64.toNat_ofNat', Int.bmod_def]
  omega

/-- A signed constant stands for the byte it was made from. -/
theorem ofInt_toInt8 (b : UInt8) : UInt8.ofInt b.toInt8.toInt = b := by
  apply UInt8.toNat_inj.1
  have h : b.toInt8.toInt = Int.bmod b.toNat (2 ^ 8) := BitVec.toInt_eq_toNat_bmod b.toBitVec
  have := b.toNat_lt
  rw [UInt8.ofInt, UInt8.toNat_ofNat', h, Int.bmod_def]
  omega

/-- No byte is taken for the end of the input. -/
theorem toUInt32_ne_eof (b : UInt8) : b.toUInt32 ≠ -1 := by
  intro h
  have h' := congrArg UInt32.toNat h
  have := b.toNat_lt
  simp at h'
  omega

/-! ## Machines that agree -/

/-- Both machines have the same tape, the head as a 64-bit number, the same input left, and have done the
same exchanges. -/
structure Agrees (m : Linear.Machine) (M : Machine) : Prop where
  tape : M.tape = some m.tape
  head : M.head = .holds (UInt64.ofInt m.head)
  input : M.input = m.input
  exchanges : M.exchanges = m.exchanges

/-- The position of the head, read as a signed number. -/
def Machine.signedHead? (M : Machine) : Option Int := M.position?.map fun w => w.toInt64.toInt

theorem Agrees.signedHead {m : Linear.Machine} {M : Machine} (h : Agrees m M) (h0 : -2 ^ 63 ≤ m.head)
    (h1 : m.head < 2 ^ 63) : M.signedHead? = some m.head := by
  rw [Machine.signedHead?, Machine.position?, h.head, Option.map_some, toInt_ofInt h0 h1]

/-! ## Rows -/

/-- Lines carried out one after another. -/
def carryOut (M : Machine) (ls : List Line) : Option Machine := ls.foldlM Machine.execute? M

theorem carryOut_cons {M M' : Machine} {line : Line} (ls : List Line) (h : M.execute? line = some M') :
    carryOut M (line :: ls) = carryOut M' ls := by
  rw [carryOut, List.foldlM_cons, h]
  rfl

section Rows
variable {m : Linear.Machine} {M : Machine} {b : UInt8}

/-- The two lines that every access to the cell begins with. -/
def addressed (M : Machine) (v : Value) (position : UInt64) : Machine :=
  (M.define v (.word position)).define (v + 1) (.pointer position)

theorem carryOut_address {position : UInt64} (h : M.head = .holds position) (v : Value) (ls : List Line) :
    carryOut M (.loadHead v :: .cellAddress (v + 1) v :: ls) = carryOut (addressed M v position) ls := by
  have hload : M.execute? (.loadHead v) = some (M.define v (.word position)) := by
    simp [Machine.execute?, Machine.position?, h]
  have haddress : (M.define v (.word position)).execute? (.cellAddress (v + 1) v) =
      some (addressed M v position) := by
    simp [Machine.execute?, Machine.word?, Machine.define, addressed]
  rw [carryOut_cons _ hload, carryOut_cons _ haddress]

/-- A cell of the tape is found at the position its 64 bits say. -/
theorem cell_at (hb : m.cell? = some b) (hsize : m.tape.size < 2 ^ 64) :
    ∃ hlt : m.head.toNat < m.tape.size, m.tape[m.head.toNat] = b ∧
      (UInt64.ofInt m.head).toNat = m.head.toNat := by
  obtain ⟨h0, hlt⟩ := Linear.head_lt_of_cell hb
  obtain ⟨hlt', hget⟩ := Array.getElem?_eq_some_iff.1 (Linear.cell?_eq_some_iff.1 hb).2
  exact ⟨hlt', hget, toNat_ofInt h0 (by omega)⟩

theorem allocate_row (hi : M.input = m.input) (he : M.exchanges = m.exchanges) (v : Value) (tapeLength : Nat) :
    ∃ M', carryOut M (row v (.allocate tapeLength)) = some M' ∧
      Agrees { m with tape := Array.replicate tapeLength 0, head := 0 } M' :=
  ⟨_, rfl, rfl, rfl, hi, he⟩

theorem moveHead_row (h : Agrees m M) (v : Value) (offset : Int) :
    ∃ M', carryOut M (row v (.moveHead offset)) = some M' ∧ Agrees { m with head := m.head + offset } M' := by
  refine ⟨{ (M.define v (.word (UInt64.ofInt m.head))).define (v + 1)
    (.word (UInt64.ofInt m.head + UInt64.ofInt offset)) with
    head := .holds (UInt64.ofInt m.head + UInt64.ofInt offset) }, ?_, h.tape, ?_, h.input, h.exchanges⟩
  · simp [carryOut, row, Machine.execute?, Machine.position?, Machine.define, Machine.word?,
      Machine.setPosition?, h.head]
  · simp only [UInt64.ofInt_add]

section Cells
variable (h : Agrees m M) (hb : m.cell? = some b) (hsize : m.tape.size < 2 ^ 64)
include h hb hsize

theorem increment_row (v : Value) (amount : UInt8) :
    ∃ M', carryOut M (row v (.increment amount)) = some M' ∧ Agrees (m.setCell (b + amount)) M' := by
  obtain ⟨hlt, hget, hnat⟩ := cell_at hb hsize
  rw [row, carryOut_address h.head]
  simp [carryOut, Machine.execute?, Machine.load?, Machine.store?, Machine.pointer?, Machine.byte?,
    Machine.define, addressed, h.tape, hnat, hget, hlt, ofInt_toInt8]
  exact ⟨rfl, h.head, h.input, h.exchanges⟩

theorem input_row (v : Value) :
    ∃ M', carryOut M (row v .input) = some M' ∧ Agrees m.readCell M' := by
  obtain ⟨hlt, hget, hnat⟩ := cell_at hb hsize
  rw [row, carryOut_address h.head]
  cases hi : m.input with
  | nil =>
    simp [carryOut, Machine.execute?, Machine.getchar, Machine.store?, Machine.pointer?, Machine.byte?,
      Machine.int?, Machine.flag?, Machine.define, addressed, h.tape, hnat, hlt, h.input, hi]
    refine ⟨?_, h.head, ?_, ?_⟩ <;> simp [Linear.Machine.readCell, Linear.Machine.setCell, hi, h.exchanges]
  | cons c rest =>
    simp [carryOut, Machine.execute?, Machine.getchar, Machine.store?, Machine.pointer?, Machine.byte?,
      Machine.int?, Machine.flag?, Machine.define, addressed, h.tape, hnat, hlt, h.input, hi, toUInt32_ne_eof]
    refine ⟨?_, h.head, ?_, ?_⟩ <;> simp [Linear.Machine.readCell, Linear.Machine.setCell, hi, h.exchanges]

theorem output_row (v : Value) :
    ∃ M', carryOut M (row v .output) = some M' ∧ Agrees (m.writeByte b) M' := by
  obtain ⟨hlt, hget, hnat⟩ := cell_at hb hsize
  rw [row, carryOut_address h.head]
  simp [carryOut, Machine.execute?, Machine.load?, Machine.pointer?, Machine.byte?, Machine.int?,
    Machine.define, addressed, h.tape, hnat, hget, hlt]
  exact ⟨rfl, h.head, h.input, congrArg (·.push (.write b)) h.exchanges⟩

/-- The row of a conditional jump leaves behind whether the cell is not zero. -/
theorem jumpIfNonzero_row (v : Value) (target : Label) :
    ∃ M', carryOut M (row v (.jumpIfNonzero target)) = some M' ∧ Agrees m M' ∧
      M'.flag? (v + 3) = some (decide (b ≠ 0)) := by
  obtain ⟨hlt, hget, hnat⟩ := cell_at hb hsize
  rw [row, carryOut_address h.head]
  simp [carryOut, Machine.execute?, Machine.load?, Machine.pointer?, Machine.byte?, Machine.flag?,
    Machine.define, addressed, h.tape, hnat, hget, hlt, UInt8.pos_iff_ne_zero]
  exact ⟨rfl, h.head, h.input, h.exchanges⟩

end Cells

theorem halt_row (h : Agrees m M) (v : Value) : carryOut M (row v .halt) = some M := by
  simp [carryOut, row, Machine.execute?, h.tape]

end Rows

end Brainfuck.Llvm
