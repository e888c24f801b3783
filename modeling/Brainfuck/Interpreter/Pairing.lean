import Brainfuck.Code.Linear.Labels
/-!
# Pairings of loop instructions

What the partners of loop instructions should be, said without a stack: a loop start and a later loop end belong
together if everything between them pairs up.
-/

namespace Brainfuck

/-- A loop starts or ends at the index. -/
def IsLoopInstruction (program : List Instruction) (i : Nat) : Prop :=
  program[i]? = some .startLoop ∨ program[i]? = some .finishLoop

/-- All loop instructions of the program are paired, a loop start with the end of a loop that starts there and a
loop end with a loop start. -/
structure PairsLoops (program : List Instruction) (partner : Nat → Nat) : Prop where
  closed : ∀ i, IsLoopInstruction program i → IsLoopInstruction program (partner i)
  involutive : ∀ i, IsLoopInstruction program i → partner (partner i) = i
  moves : ∀ i, IsLoopInstruction program i → partner i ≠ i
  start : ∀ i, program[i]? = some .startLoop → i < partner i ∧ IsLoop program i (partner i)
  finish : ∀ i, program[i]? = some .finishLoop → program[partner i]? = some .startLoop

/-- The table has one entry for each instruction. Those of loop instructions pair them, the others are 0. -/
structure IsPartnerTable (program : List Instruction) (partners : Array Nat) : Prop where
  size : partners.size = program.length
  others : ∀ i, i < program.length → ¬ IsLoopInstruction program i → partners[i]? = some 0
  pairs : PairsLoops program fun i => partners.getD i 0

/-- No two pairs cross. -/
def NoneCross (program : List Instruction) (partner : Nat → Nat) : Prop :=
  ∀ i j, program[i]? = some .startLoop → program[j]? = some .startLoop → i ≠ j →
    NestedOrDisjoint i (partner i) j (partner j)

end Brainfuck
