/-!
# Execution

How a machine gets through numbered lines of code, whatever the lines are: a step names the line to go on
at, or it ends the run. What a machine does to the outside is a list of exchanges, in order.
-/

namespace Brainfuck

namespace Execution

/-- One step of a run: either the run goes on at another line, or it has ended. -/
inductive Step (State Result : Type) where
  | next (pc : Nat) (state : State)
  | ended (result : Result)

variable {State Result : Type}

/-- So many steps from `pc` on. A run that has ended stays so. -/
def steps (step : Nat → State → Step State Result) : Nat → Nat → State → Step State Result
  | 0, pc, s => .next pc s
  | n + 1, pc, s =>
    match step pc s with
    | .next pc s => steps step n pc s
    | .ended result => .ended result

/-- How a machine ends: at the end of its code, or at a line that it cannot carry out. -/
inductive Ending (Machine : Type) where
  | halted (m : Machine)
  | stuck

end Execution

/-! ## Exchanges with the outside -/

/-- A byte that was read, where the end of the input has none, or a byte that was written. -/
inductive Exchange where
  | read (b : Option UInt8)
  | write (b : UInt8)
deriving DecidableEq

namespace Exchange

def written? : Exchange → Option UInt8
  | read _ => none
  | write b => some b

/-- The bytes written, in order. -/
def output (exchanges : Array Exchange) : Array UInt8 := exchanges.filterMap written?

end Exchange

end Brainfuck
