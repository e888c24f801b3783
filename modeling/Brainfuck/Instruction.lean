/-!
# Instructions

The six instructions a program is made of. Increments and head moves carry a signed count, so that a run
of equal commands is one instruction. Any character that is no command is a comment.
-/

namespace Brainfuck

inductive Instruction where
  | increment (amount : Int)
  | moveHead (offset : Int)
  | input
  | output
  | startLoop
  | finishLoop
deriving DecidableEq

namespace Instruction

/-- The instruction of a single command character. -/
def ofChar? : Char → Option Instruction
  | '+' => some (increment 1)
  | '-' => some (increment (-1))
  | '>' => some (moveHead 1)
  | '<' => some (moveHead (-1))
  | ',' => some input
  | '.' => some output
  | '[' => some startLoop
  | ']' => some finishLoop
  | _ => none

/-- Two neighbours that count the same thing are one instruction with the sum of their counts. -/
def merge? : Instruction → Instruction → Option Instruction
  | increment a, increment b => some (increment (a + b))
  | moveHead a, moveHead b => some (moveHead (a + b))
  | _, _ => none

/-- A count of zero does nothing; everything else has an effect. -/
def isEffective : Instruction → Bool
  | increment amount => amount != 0
  | moveHead offset => offset != 0
  | _ => true

/-- The name of an instruction with its count, as log lines show it. -/
def text : Instruction → String
  | increment amount => "Increment(" ++ toString amount ++ ")"
  | moveHead offset => "MoveHead(" ++ toString offset ++ ")"
  | input => "Input"
  | output => "Output"
  | startLoop => "StartLoop"
  | finishLoop => "FinishLoop"

end Instruction

end Brainfuck
