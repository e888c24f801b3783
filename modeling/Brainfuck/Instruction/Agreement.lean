import Brainfuck.Instruction
/-!
# Agreement

Cells hold bytes, so increments whose amounts leave the same remainder by 256 do the same. Two lists of
instructions agree when they differ in nothing but such amounts.
-/

namespace Brainfuck

/-- The same instruction, but for multiples of 256 in the amount of an increment. -/
def Instruction.Agrees : Instruction → Instruction → Prop
  | increment a, increment b => a % 256 = b % 256
  | i, j => i = j

/-- Lists of the same length that agree at every index. -/
structure Agreeing (p q : List Instruction) : Prop where
  length_eq : p.length = q.length
  agrees : ∀ (k : Nat) (i j : Instruction), p[k]? = some i → q[k]? = some j → i.Agrees j

end Brainfuck
