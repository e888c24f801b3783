import Brainfuck.Execution
import Brainfuck.Interpreter.Partners
import Brainfuck.Stream
/-!
# Interpreter

Runs programs on a tape of bytes. The tape, the head and the streams keep their state from one run to the
next, also after a run that failed. A failing instruction leaves tape and head as they were before it.

A run takes a number of steps as fuel and answers `none` when they do not suffice; a program diverges when
no number does.
-/

namespace Brainfuck

structure Interpreter where
  tape : Array UInt8
  head : Nat
  input : Option Reader
  output : Option Writer

/-- The tape length where none is asked for. -/
def defaultTapeLength : Nat := 30000

/-- Positions are signed 64-bit numbers. -/
def greatestPosition : Int := 9223372036854775807

namespace Interpreter

/-- An interpreter at the start of a zeroed tape. -/
def create (tapeLength : Nat) (input : Option Reader) (output : Option Writer) : Interpreter :=
  { tape := Array.replicate tapeLength 0, head := 0, input := input, output := output }

/-- The byte under the head. -/
def cell (s : Interpreter) : UInt8 := s.tape.getD s.head 0

def setCell (s : Interpreter) (b : UInt8) : Interpreter :=
  match s with
  | ⟨tape, head, input, output⟩ => ⟨tape.setIfInBounds head b, head, input, output⟩

/-! ## Single instructions -/

/-- The cell changes modulo 256. -/
def increment (s : Interpreter) (amount : Int) : Interpreter :=
  match s with
  | ⟨tape, head, input, output⟩ =>
    let b := tape.getD head 0 + UInt8.ofInt amount
    ⟨tape.setIfInBounds head b, head, input, output⟩

/-- Where the head goes from `head` on a tape of the given length. -/
def movedHead (tapeLength head : Nat) (offset : Int) : Except Error Nat :=
  let position := (head : Int) + offset
  if greatestPosition < position then .error .headOverflow
  else if position < 0 then .error .tapeUnderflow
  else if (tapeLength : Int) ≤ position then .error .tapeOverflow
  else .ok position.toNat

def moveHead (s : Interpreter) (offset : Int) : Except Error Unit × Interpreter :=
  match movedHead s.tape.size s.head offset with
  | .ok head => (.ok (), { s with head := head })
  | .error e => (.error e, s)

/-- Without an input every read is at the end of the stream. -/
def readCell (s : Interpreter) : Except Error Unit × Interpreter :=
  match s.input with
  | none => (.ok (), s.setCell 0)
  | some reader =>
    match reader.read with
    | (.ok b, reader) => (.ok (), { s.setCell b with input := some reader })
    | (.error f, reader) => (.error (.io (.fault f)), { s with input := some reader })

/-- Without an output nothing is written. -/
def writeCell (s : Interpreter) : Except Error Unit × Interpreter :=
  match s with
  | ⟨tape, head, input, some writer⟩ =>
    let b := tape.getD head 0
    match writer.write b with
    | (.ok (), writer) => (.ok (), ⟨tape, head, input, some writer⟩)
    | (.error e, writer) => (.error (.io e), ⟨tape, head, input, some writer⟩)
  | s => (.ok (), s)

/-- What a completed run ends with. -/
def flush (s : Interpreter) : Except Error Unit × Interpreter :=
  match s with
  | ⟨tape, head, input, some writer⟩ =>
    match writer.flush with
    | (.ok (), writer) => (.ok (), ⟨tape, head, input, some writer⟩)
    | (.error e, writer) => (.error (.io e), ⟨tape, head, input, some writer⟩)
  | s => (.ok (), s)

/-! ## Programs -/

/-- A run ends with a result and the state it leaves behind. -/
abbrev Step := Execution.Step Interpreter (Except Error Unit × Interpreter)

/-- Goes on behind the instruction at `pc` if it succeeded. -/
def after (pc : Nat) : Except Error Unit × Interpreter → Step
  | (.ok (), s) => .next (pc + 1) s
  | (.error e, s) => .ended (.error e, s)

/-- Executes the instruction at `pc`. Both loop instructions test the cell, so a jump goes behind the
partner. Behind the last instruction the output is flushed. -/
def step (program : Array Instruction) (partners : Array Nat) (pc : Nat) (s : Interpreter) : Step :=
  match program[pc]? with
  | none => .ended s.flush
  | some (.increment amount) => .next (pc + 1) (s.increment amount)
  | some (.moveHead offset) => after pc (s.moveHead offset)
  | some .input => after pc s.readCell
  | some .output => after pc s.writeCell
  | some .startLoop => .next (if s.cell = 0 then partners.getD pc 0 + 1 else pc + 1) s
  | some .finishLoop => .next (if s.cell = 0 then pc + 1 else partners.getD pc 0 + 1) s

/-- Steps until the run ends or the fuel is used up. -/
def runFrom (program : Array Instruction) (partners : Array Nat) :
    Nat → Nat → Interpreter → Option (Except Error Unit × Interpreter)
  | 0, _, _ => none
  | fuel + 1, pc, s =>
    match step program partners pc s with
    | .next pc s => runFrom program partners fuel pc s
    | .ended ending => some ending

/-- Runs a program from its first instruction. A program whose loops do not pair up changes nothing. -/
def run (program : List Instruction) (fuel : Nat) (s : Interpreter) :
    Option (Except Error Unit × Interpreter) :=
  match loopPartners program with
  | .error e => some (.error (.inconsistent e), s)
  | .ok partners => runFrom program.toArray partners fuel 0 s

end Interpreter

end Brainfuck
