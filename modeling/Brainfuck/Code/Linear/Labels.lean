import Brainfuck.Code.Linear
import Brainfuck.Instruction.Balance
/-!
# Labels of linear code

Which operations each instruction of a program contributes to its code, and how the labels of the loops stand in it.
Loops are numbered from 0 in the order in which they start; loop `n` has the labels `2 * n` and `2 * n + 1`.
-/

namespace Brainfuck

/-- A loop of the program starts and ends at these indices: what stands between them pairs up. -/
def IsLoop (program : List Instruction) (start finish : Nat) : Prop :=
  ∃ before body after, program = before ++ .startLoop :: (body ++ .finishLoop :: after) ∧ Balanced body ∧
    before.length = start ∧ start + body.length + 1 = finish

/-- The number of a loop that starts at the index. -/
def loopNumber (program : List Instruction) (start : Nat) : Nat := (program.take start).count .startLoop

/-- The label of the condition of loop `n`. -/
def conditionLabel (n : Nat) : Label := ⟨2 * n⟩

/-- The label of the body of loop `n`. -/
def bodyLabel (n : Nat) : Label := ⟨2 * n + 1⟩

/-- `Contributes program k ops`: the instruction at index `k` becomes these operations. -/
inductive Contributes (program : List Instruction) : Nat → List Op → Prop
  | increment {k amount} : program[k]? = some (.increment amount) →
      Contributes program k [.increment (UInt8.ofInt amount)]
  | moveHead {k offset} : program[k]? = some (.moveHead offset) → Contributes program k [.moveHead offset]
  | input {k} : program[k]? = some .input → Contributes program k [.input]
  | output {k} : program[k]? = some .output → Contributes program k [.output]
  | startLoop {start finish} : IsLoop program start finish →
      Contributes program start
        [.jump (conditionLabel (loopNumber program start)), .mark (bodyLabel (loopNumber program start))]
  | finishLoop {start finish} : IsLoop program start finish →
      Contributes program finish
        [.mark (conditionLabel (loopNumber program start)), .jumpIfNonzero (bodyLabel (loopNumber program start))]

/-- From its body to its condition loop `n` takes up these places of the code. -/
structure Spans (code : List Op) (n first last : Nat) : Prop where
  body : code[first]? = some (.mark (bodyLabel n))
  condition : code[last]? = some (.mark (conditionLabel n))

/-- One of two intervals stands before the other or within it. -/
def NestedOrDisjoint (first last first' last' : Nat) : Prop :=
  last < first' ∨ last' < first ∨ first < first' ∧ last' < last ∨ first' < first ∧ last < last'

/-- Code with so many loops, whose labels are used as loops use them. -/
structure Numbered (loops : Nat) (code : List Op) : Prop where
  marks : ∀ l, code.count (.mark l) = if l.id < 2 * loops then 1 else 0
  jumps : ∀ l, code.count (.jump l) = if l.id < 2 * loops ∧ l.id % 2 = 0 then 1 else 0
  branches : ∀ l, code.count (.jumpIfNonzero l) = if l.id < 2 * loops ∧ l.id % 2 = 1 then 1 else 0
  spans : ∀ n < loops, ∃ first last, Spans code n first last
  ordered : ∀ n first last, Spans code n first last → first < last
  nested : ∀ m n first last first' last', m ≠ n → Spans code m first last → Spans code n first' last' →
    NestedOrDisjoint first last first' last'

end Brainfuck
