import Brainfuck.Log
/-!
# Linear code

A program without nesting: operations on a tape, marks, and jumps to marks. This is what every target is
written from. `lower` turns instructions into linear code; a loop becomes

    jump condition
    mark body
    …
    mark condition
    jumpIfNonzero body

so its condition is tested after the body and before the first pass. Labels are numbered in the order in
which loops start, the condition of a loop before its body.
-/

namespace Brainfuck

structure Label where
  id : Nat
deriving DecidableEq

/-- One operation of linear code. `allocate` makes a zeroed tape of the given length with the head on its
first cell, `halt` ends the program. -/
inductive Op where
  | allocate (tapeLength : Nat)
  | increment (amount : UInt8)
  | moveHead (offset : Int)
  | input
  | output
  | jump (target : Label)
  | mark (label : Label)
  | jumpIfNonzero (target : Label)
  | halt
deriving DecidableEq

/-- The two labels of a loop. -/
structure LoopLabels where
  condition : Label
  body : Label
deriving DecidableEq

/-- Code lowered so far, with the loops that are still open, innermost last. -/
structure Lowering where
  ops : Array Op
  openLoops : Array LoopLabels
  nextLabel : Nat
  lowered : Nat
  events : Array Event

namespace Lowering

def start (tapeLength : Nat) : Lowering :=
  { ops := #[.allocate tapeLength], openLoops := #[], nextLabel := 0, lowered := 0, events := #[] }

def depth (s : Lowering) : Nat := s.openLoops.size

def announce (s : Lowering) (i : Instruction) : Lowering :=
  let depth := s.depth
  { s with events := s.events.push (.lowering i depth) }

/-- Appends the code of one instruction. -/
def emit (s : Lowering) (op : Op) : Lowering :=
  { s with ops := s.ops.push op, lowered := s.lowered + 1 }

def openLoop (s : Lowering) : Lowering :=
  let frame : LoopLabels := ⟨⟨s.nextLabel⟩, ⟨s.nextLabel + 1⟩⟩
  { s with
    ops := (s.ops.push (.jump frame.condition)).push (.mark frame.body)
    openLoops := s.openLoops.push frame
    nextLabel := s.nextLabel + 2
    lowered := s.lowered + 1 }

/-- Closes the innermost open loop. Without one the state is handed back as a failure. -/
def closeLoop (s : Lowering) : Except Lowering Lowering :=
  match s.openLoops.back? with
  | none => .error s
  | some frame =>
    .ok { s with
      ops := (s.ops.push (.mark frame.condition)).push (.jumpIfNonzero frame.body)
      openLoops := s.openLoops.pop
      lowered := s.lowered + 1 }

/-- Lowers one instruction. Cells hold bytes, so an increment matters modulo 256 only. -/
def step (s : Lowering) : Instruction → Except Lowering Lowering
  | .increment amount => .ok (s.emit (.increment (UInt8.ofInt amount)))
  | .moveHead offset => .ok (s.emit (.moveHead offset))
  | .input => .ok (s.emit .input)
  | .output => .ok (s.emit .output)
  | .startLoop => .ok s.openLoop
  | .finishLoop => s.closeLoop

/-- Lowers a list of instructions up to the first that closes no loop. -/
def run : List Instruction → Lowering → Except Inconsistency Unit × Lowering
  | [], s => (if s.openLoops.isEmpty then .ok () else .error .loopsLeftOpen, s)
  | i :: rest, s =>
    match (s.announce i).step i with
    | .ok s' => run rest s'
    | .error s' => (.error .unmatchedFinish, s')

end Lowering

/-- The linear code of a program on a tape of the given length. -/
def lower (tapeLength : Nat) (program : List Instruction) : Logged (List Op) :=
  if tapeLength = 0 then
    .fail (.invalidTapeLength tapeLength)
  else
    match Lowering.run program (.start tapeLength) with
    | (.ok (), s) => ⟨.ok (s.ops.push .halt).toList, s.events.push (.generated s.lowered s.nextLabel)⟩
    | (.error e, s) => ⟨.error (.inconsistent e), s.events⟩

end Brainfuck
