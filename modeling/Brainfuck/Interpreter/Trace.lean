import Brainfuck.Interpreter
import Brainfuck.Stream.Calls
/-!
# Traces of runs

What a run has executed, one instruction after the other, each with the state that it met; how an instruction
fails; and what a failed run leaves behind.
-/

namespace Brainfuck.Interpreter

/-- The instructions executed so far, in order, each with the state in front of it. -/
abbrev Trace := List (Instruction × Interpreter)

/-- `Executes program partners s trace pc u`: from state `s` the run has executed the trace, and goes on at `pc` in
state `u`. -/
inductive Executes (program : List Instruction) (partners : Array Nat) (s : Interpreter) :
    Trace → Nat → Interpreter → Prop
  | start : Executes program partners s [] 0 s
  | next {trace pc u i pc' u'} : Executes program partners s trace pc u → program[pc]? = some i →
      step program.toArray partners pc u = .next pc' u' → Executes program partners s (trace ++ [(i, u)]) pc' u'

namespace Trace

/-- The bytes of the outputs. -/
def outputs (trace : Trace) : List UInt8 :=
  trace.filterMap fun (i, u) => if i = .output then some u.cell else none

/-- The number of inputs. -/
def inputs (trace : Trace) : Nat := trace.countP fun (i, _) => i = .input

end Trace

/-- `Fails i u e t`: in state `u` the instruction fails and leaves state `t` behind. -/
inductive Fails : Instruction → Interpreter → Error → Interpreter → Prop
  | underflow {offset u} : (u.head : Int) + offset < 0 → Fails (.moveHead offset) u .tapeUnderflow u
  | overflow {offset u} : (u.tape.size : Int) ≤ u.head + offset → u.head + offset ≤ greatestPosition →
      Fails (.moveHead offset) u .tapeOverflow u
  | headOverflow {offset u} : greatestPosition < u.head + offset → Fails (.moveHead offset) u .headOverflow u
  | input {u reader f} : u.input = some reader → reader.answer reader.reads = some (.fault f) →
      f ≠ .unexpectedEof → Fails .input u (.io (.fault f)) { u with input := some (reader.after 1) }
  | output {u writer e} : u.output = some writer → writer.onWrite writer.writes = some e →
      Fails .output u (.io e) { u with output := some { writer with writes := writer.writes + 1 } }

/-- The flush behind the last instruction fails. -/
inductive FlushFails : Interpreter → Error → Interpreter → Prop
  | intro {u writer e} : u.output = some writer → writer.onFlush writer.flushes = some e →
      FlushFails u (.io e) { u with output := some { writer with flushes := writer.flushes + 1 } }

/-- Which error stands for which failure of an instruction in state `u`. -/
structure Causes (i : Instruction) (u : Interpreter) (e : Error) : Prop where
  tapeUnderflow : e = .tapeUnderflow ↔ ∃ offset, i = .moveHead offset ∧ (u.head : Int) + offset < 0
  tapeOverflow : e = .tapeOverflow ↔ ∃ offset, i = .moveHead offset ∧ (u.tape.size : Int) ≤ u.head + offset ∧
    u.head + offset ≤ greatestPosition
  headOverflow : e = .headOverflow ↔ ∃ offset, i = .moveHead offset ∧ greatestPosition < u.head + offset
  /-- The answer is what the read meets behind all interrupted calls. -/
  io : (∃ cause, e = .io cause) ↔
    (i = .input ∧ ∃ reader f, u.input = some reader ∧ reader.answer reader.reads = some (.fault f) ∧
      f ≠ .unexpectedEof) ∨
    (i = .output ∧ ∃ writer cause, u.output = some writer ∧ writer.onWrite writer.writes = some cause)

/-- From state `s` the trace was executed up to state `u`, and then `t` was left behind: tape and head are those of
`u`, and beyond the trace there were so many reads and flushes, and no byte was written. -/
structure Leaves (s : Interpreter) (trace : Trace) (u t : Interpreter) (reads flushes : Nat) : Prop where
  tape : t.tape = u.tape
  head : t.head = u.head
  input : t.input = s.input.map (Reader.after (trace.inputs + reads))
  bytes : t.output.map Writer.bytes = s.output.map fun w => w.bytes ++ trace.outputs.toArray
  flushes : t.output.map Writer.flushes = s.output.map fun w => w.flushes + flushes

end Brainfuck.Interpreter
