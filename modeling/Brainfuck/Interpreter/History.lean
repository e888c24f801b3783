import Brainfuck.Interpreter.Trace
/-!
# Histories

What runs on one interpreter have executed, one instruction after the other, each with the states around it; which
calls of a reader the inputs have taken, and what the outputs have written.
-/

namespace Brainfuck

/-- The byte that a read stores: 0 at the end of the stream, and nothing for a fault that announces no end. -/
def Reader.stored? : Option Reader.Item → Option UInt8
  | some (.byte b) => some b
  | none | some (.fault .unexpectedEof) => some 0
  | some (.fault _) => none

namespace Interpreter

/-! ## Acts -/

/-- An instruction that was executed, with the states before and after it. -/
structure Act where
  instruction : Instruction
  before : Interpreter
  outcome : Except Error Unit
  after : Interpreter

namespace Act

/-- The byte goes into the cell under the head. -/
structure Stores (act : Act) (b : UInt8) : Prop where
  outcome : act.outcome = .ok ()
  tape : act.after.tape = act.before.tape.setIfInBounds act.before.head b
  head : act.after.head = act.before.head

/-- What an input does with the item that it takes. -/
inductive Receives (act : Act) : Option Reader.Item → Prop
  | byte {b} : act.Stores b → Receives act (some (.byte b))
  | atEnd : act.Stores 0 → Receives act none
  | announcedEnd : act.Stores 0 → Receives act (some (.fault .unexpectedEof))
  | failed {f} : f ≠ .unexpectedEof → act.outcome = .error (.io (.fault f)) → act.after.tape = act.before.tape →
      act.after.head = act.before.head → Receives act (some (.fault f))

/-- The act but for the readers in its states. -/
def withoutReaders (act : Act) : Act :=
  { act with before := { act.before with input := none }, after := { act.after with input := none } }

end Act

/-- Acts in the order in which they were executed. -/
abbrev History := List Act

namespace History

def inputs (history : History) : Nat := history.countP fun act => act.instruction = .input

/-- The cells that outputs have found, as far as they succeeded. -/
def written (history : History) : List UInt8 :=
  history.filterMap fun act =>
    match act.instruction, act.outcome with
    | .output, .ok () => some act.before.cell
    | _, _ => none

/-- The cells that inputs have left, as far as they succeeded. -/
def stored (history : History) : List UInt8 :=
  history.filterMap fun act =>
    match act.instruction, act.outcome with
    | .input, .ok () => some act.after.cell
    | _, _ => none

end History

/-- From call `k` on, each input of the history passes over interrupted calls and takes the next one. The input behind
them begins with the last number. -/
inductive TakesInOrder (calls : Nat → Option Reader.Item) : Nat → History → Nat → Prop
  | nothing (k : Nat) : TakesInOrder calls k [] k
  | input {k item k' k'' act history} : act.instruction = .input → Reader.Retried calls k item k' →
      act.Receives item → TakesInOrder calls k' history k'' → TakesInOrder calls k (act :: history) k''
  | other {k k' act history} : act.instruction ≠ .input → TakesInOrder calls k history k' →
      TakesInOrder calls k (act :: history) k'

/-! ## Runs -/

/-- `RunsBy program partners pc s history result t`: from `pc` in state `s` the run executes the history and ends with
the result in state `t`. The act that fails is the last one. -/
inductive RunsBy (program : List Instruction) (partners : Array Nat) :
    Nat → Interpreter → History → Except Error Unit → Interpreter → Prop
  | done {pc s result t} : program[pc]? = none → s.flush = (result, t) → RunsBy program partners pc s [] result t
  | next {pc i s pc' s' history result t} : program[pc]? = some i →
      step program.toArray partners pc s = .next pc' s' → RunsBy program partners pc' s' history result t →
      RunsBy program partners pc s (⟨i, s, .ok (), s'⟩ :: history) result t
  | failed {pc i s e t} : program[pc]? = some i → step program.toArray partners pc s = .ended (.error e, t) →
      RunsBy program partners pc s [⟨i, s, .error e, t⟩] (.error e) t

/-- The programs are run one after the other on one interpreter. Each run ends, with the result beside its program, and
all of them lead from `s` to `t`. -/
inductive RunsInTurn : Interpreter → List (List Instruction × Except Error Unit) → Interpreter → Prop
  | nothing (s : Interpreter) : RunsInTurn s [] s
  | next {s program fuel result s' runs t} : run program fuel s = some (result, s') → RunsInTurn s' runs t →
      RunsInTurn s ((program, result) :: runs) t

/-- What runs one after the other execute. A program whose loops do not pair up executes nothing. -/
inductive Recorded : Interpreter → List (List Instruction × Except Error Unit) → History → Interpreter → Prop
  | nothing (s : Interpreter) : Recorded s [] [] s
  | refused {s program cause runs history t} : loopPartners program = .error cause → Recorded s runs history t →
      Recorded s ((program, .error (.inconsistent cause)) :: runs) history t
  | next {s program partners result s' runs first others t} : loopPartners program = .ok partners →
      RunsBy program partners 0 s first result s' → Recorded s' runs others t →
      Recorded s ((program, result) :: runs) (first ++ others) t

/-- The interpreter with this reader as its input. -/
def withReader (reader : Reader) (s : Interpreter) : Interpreter := { s with input := some reader }

end Interpreter

end Brainfuck
