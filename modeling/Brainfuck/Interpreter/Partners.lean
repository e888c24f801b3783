import Brainfuck.Error
import Brainfuck.Instruction
/-!
# Loop partners

Where each loop instruction finds the other end of its loop. One pass pairs every loop start with its loop
end; instructions that are no loop instruction have the entry 0.
-/

namespace Brainfuck

/-- Pairs loop instructions from index `i` on. `opened` holds the indices of the loop starts without a
partner so far, innermost first. -/
def partnersFrom : List Instruction → Nat → List Nat → Array Nat → Except Inconsistency (Array Nat)
  | [], _, opened, partners => if opened.isEmpty then .ok partners else .error .unmatchedStart
  | instruction :: rest, i, opened, partners =>
    match instruction with
    | .startLoop => partnersFrom rest (i + 1) (i :: opened) partners
    | .finishLoop =>
      match opened with
      | [] => .error .unmatchedFinish
      | start :: outer =>
        partnersFrom rest (i + 1) outer ((partners.setIfInBounds start i).setIfInBounds i start)
    | _ => partnersFrom rest (i + 1) opened partners

/-- The index of the partner of each loop instruction. -/
def loopPartners (program : List Instruction) : Except Inconsistency (Array Nat) :=
  partnersFrom program 0 [] (Array.replicate program.length 0)

end Brainfuck
