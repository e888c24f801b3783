import Brainfuck.Code.Linear
import Brainfuck.Execution
/-!
# The linear machine

What linear code means. The machine has a tape of bytes and a head that may stand anywhere: moving it is
never an error, but an operation on a cell gets stuck when the head is not on the tape. The input reads as
zero behind its end.
-/

namespace Brainfuck.Linear

structure Machine where
  tape : Array UInt8
  head : Int
  input : List UInt8
  exchanges : Array Exchange

abbrev Step := Execution.Step Machine (Execution.Ending Machine)

namespace Machine

/-- A machine that has not made its tape yet. -/
def start (input : List UInt8) : Machine := ⟨#[], 0, input, #[]⟩

/-- The cell under the head, if the head is on the tape. -/
def cell? (m : Machine) : Option UInt8 :=
  if m.head < 0 then none else m.tape[m.head.toNat]?

/-- Changes the cell under the head. -/
def setCell (m : Machine) (b : UInt8) : Machine :=
  { m with tape := m.tape.setIfInBounds m.head.toNat b }

/-- Takes a byte from the input and stores it. -/
def readCell (m : Machine) : Machine :=
  { m.setCell (m.input.headD 0) with
    input := m.input.tail
    exchanges := m.exchanges.push (.read m.input.head?) }

def writeByte (m : Machine) (b : UInt8) : Machine :=
  { m with exchanges := m.exchanges.push (.write b) }

end Machine

/-- Goes on with the cell under the head, or gets stuck without one. -/
def onCell (m : Machine) (f : UInt8 → Step) : Step :=
  match m.cell? with
  | none => .ended .stuck
  | some b => f b

/-- Where a label is marked. -/
def position? (code : Array Op) (l : Label) : Option Nat :=
  code.findIdx? fun op => op = .mark l

def jumpTo (code : Array Op) (l : Label) (m : Machine) : Step :=
  match position? code l with
  | none => .ended .stuck
  | some pc => .next pc m

/-- Carries out the operation at `pc`. -/
def step (code : Array Op) (pc : Nat) (m : Machine) : Step :=
  match code[pc]? with
  | none => .ended .stuck
  | some (.allocate tapeLength) => .next (pc + 1) { m with tape := Array.replicate tapeLength 0, head := 0 }
  | some (.increment amount) => onCell m fun b => .next (pc + 1) (m.setCell (b + amount))
  | some (.moveHead offset) => .next (pc + 1) { m with head := m.head + offset }
  | some .input => onCell m fun _ => .next (pc + 1) m.readCell
  | some .output => onCell m fun b => .next (pc + 1) (m.writeByte b)
  | some (.jump target) => jumpTo code target m
  | some (.mark _) => .next (pc + 1) m
  | some (.jumpIfNonzero target) =>
    onCell m fun b => if b = 0 then .next (pc + 1) m else jumpTo code target m
  | some .halt => .ended (.halted m)

/-- So many steps from `pc` on. A machine that has halted or is stuck stays so. -/
def steps (code : Array Op) : Nat → Nat → Machine → Step := Execution.steps (step code)

/-- On the given input, the code comes to its end in state `m`. -/
def Halts (code : Array Op) (input : List UInt8) (m : Machine) : Prop :=
  ∃ n, steps code n 0 (.start input) = .ended (.halted m)

/-- On the given input, the machine comes into state `m`. -/
def Reaches (code : Array Op) (input : List UInt8) (m : Machine) : Prop :=
  ∃ n pc, steps code n 0 (.start input) = .next pc m

/-! ## Staying on the tape -/

/-- Does an operation look at the cell under the head? -/
def usesCell : Op → Bool
  | .increment _ | .input | .output | .jumpIfNonzero _ => true
  | _ => false

/-- On the given input, the code touches only cells of a tape of the given length. -/
def StaysOnTape (tapeLength : Nat) (code : Array Op) (input : List UInt8) : Prop :=
  ∀ n pc m op, steps code n 0 (.start input) = .next pc m → code[pc]? = some op → usesCell op →
    0 ≤ m.head ∧ m.head < tapeLength

/-- On the given input, the head never leaves the positions that satisfy `p`. -/
def KeepsHead (p : Int → Prop) (code : Array Op) (input : List UInt8) : Prop :=
  ∀ n pc m, steps code n 0 (.start input) = .next pc m → p m.head

end Brainfuck.Linear
