import Brainfuck.Instruction
/-!
# Balance

Instruction lists whose loops pair up, said by counting: no beginning of the list ends more loops than it
starts, and the whole list ends as many as it starts.
-/

namespace Brainfuck

namespace Instruction

/-- How an instruction changes the number of open loops. -/
def nesting : Instruction → Int
  | startLoop => 1
  | finishLoop => -1
  | _ => 0

end Instruction

/-- The number of loops open behind a list. -/
def depthAfter : List Instruction → Int
  | [] => 0
  | instruction :: rest => instruction.nesting + depthAfter rest

/-- Does some beginning of the list end more loops than it starts? -/
def HasStrayFinish (program : List Instruction) : Prop :=
  ∃ n, depthAfter (program.take n) < 0

def Balanced (program : List Instruction) : Prop :=
  ¬ HasStrayFinish program ∧ depthAfter program = 0

theorem depthAfter_append (p q : List Instruction) :
    depthAfter (p ++ q) = depthAfter p + depthAfter q := by
  induction p with
  | nil => simp [depthAfter]
  | cons instruction p ih => simp [depthAfter, ih, Int.add_assoc]

end Brainfuck
