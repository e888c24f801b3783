import Brainfuck.Code.C
import Brainfuck.Execution
import Brainfuck.Interpreter
/-!
# The meaning of C lines

A machine for the statements that the target writes. The head is a signed 64-bit number: a head that
leaves that range, a number that cannot be written as a constant of that width, a cell outside the tape and
a label that is not there get the machine stuck.
-/

namespace Brainfuck.C

structure Machine where
  tape : Option (Array UInt8)
  head : Option Int
  input : List UInt8
  exchanges : Array Exchange

abbrev Step := Execution.Step Machine (Execution.Ending Machine)

namespace Machine

/-- Nothing is declared yet. -/
def start (input : List UInt8) : Machine := ⟨none, none, input, #[]⟩

/-- The cell `tape[head]`. -/
def cell? (m : Machine) : Option UInt8 := do
  let tape ← m.tape
  let head ← m.head
  if head < 0 then none else tape[head.toNat]?

/-- Assigns to `tape[head]`. -/
def setCell? (m : Machine) (b : UInt8) : Option Machine := do
  let tape ← m.tape
  let head ← m.head
  if head < 0 ∨ (tape.size : Int) ≤ head then none
  else some { m with tape := some (tape.setIfInBounds head.toNat b) }

/-- The range of a head. -/
def inRange (position : Int) : Bool := -greatestPosition - 1 ≤ position && position ≤ greatestPosition

/-- The numbers that are written as a constant. A minus sign is an operator, so the least position is
none of them. -/
def isConstant (number : Int) : Bool := -greatestPosition ≤ number && number ≤ greatestPosition

/-- What a line that does not jump does. -/
def execute? (m : Machine) : Line → Option Machine
  | .allocateTape length =>
    if isConstant length then some { m with tape := some (Array.replicate length 0) } else none
  | .clearHead => some { m with head := some 0 }
  | .addToCell amount => do
    let b ← m.cell?
    m.setCell? (b + amount)
  | .addToHead offset => do
    let head ← m.head
    if isConstant offset && inRange (head + offset) then some { m with head := some (head + offset) }
    else none
  | .readCell =>
    match m.input with
    | [] => (m.setCell? 0).map fun m => { m with exchanges := m.exchanges.push (.read none) }
    | b :: rest =>
      (m.setCell? b).map fun m =>
        { m with input := rest, exchanges := m.exchanges.push (.read (some b)) }
  | .writeCell => do
    let b ← m.cell?
    return { m with exchanges := m.exchanges.push (.write b) }
  | .label _ => some m
  | .freeTape => m.tape.map fun _ => m
  | .goto _ | .gotoIfNonzero _ | .returnZero => none

end Machine

/-- The line of a label. -/
def labelLine? (lines : Array Line) (l : Label) : Option Nat :=
  lines.findIdx? fun line => line = .label l

def goTo (lines : Array Line) (l : Label) (m : Machine) : Step :=
  match labelLine? lines l with
  | none => .ended .stuck
  | some pc => .next pc m

/-- Carries out the line at `pc`. -/
def step (lines : Array Line) (pc : Nat) (m : Machine) : Step :=
  match lines[pc]? with
  | none => .ended .stuck
  | some .returnZero => .ended (.halted m)
  | some (.goto target) => goTo lines target m
  | some (.gotoIfNonzero target) =>
    match m.cell? with
    | none => .ended .stuck
    | some b => if b > 0 then goTo lines target m else .next (pc + 1) m
  | some line =>
    match m.execute? line with
    | none => .ended .stuck
    | some m => .next (pc + 1) m

/-- So many steps from `pc` on. A machine that has returned or is stuck stays so. -/
def steps (lines : Array Line) : Nat → Nat → Machine → Step := Execution.steps (step lines)

/-- On the given input, the program comes to its return in state `m`. -/
def Returns (lines : List Line) (input : List UInt8) (m : Machine) : Prop :=
  ∃ n, steps lines.toArray n 0 (.start input) = .ended (.halted m)

end Brainfuck.C
