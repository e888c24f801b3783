import Brainfuck.Interpreter
/-!
# Indices

Which places of its arrays a run looks up. `partnersWithin` pairs loops as `partnersFrom` does and answers nothing once
it would write outside its table; `Within` says the same of a step.
-/

namespace Brainfuck

/-- Pairs loop instructions, with both writes to the table checked. -/
def partnersWithin : List Instruction → Nat → List Nat → Array Nat → Option (Except Inconsistency (Array Nat))
  | [], _, opened, partners => some (if opened.isEmpty then .ok partners else .error .unmatchedStart)
  | instruction :: rest, i, opened, partners =>
    match instruction with
    | .startLoop => partnersWithin rest (i + 1) (i :: opened) partners
    | .finishLoop =>
      match opened with
      | [] => some (.error .unmatchedFinish)
      | start :: outer =>
        if start < partners.size ∧ i < partners.size then
          partnersWithin rest (i + 1) outer ((partners.setIfInBounds start i).setIfInBounds i start)
        else none
    | _ => partnersWithin rest (i + 1) opened partners

namespace Interpreter

/-- What a step in state `u` looks up is there: the cell under the head, and, but for the end of the program, the
instruction at `pc` and its partner, which is an instruction too. -/
structure Within (program : List Instruction) (partners : Array Nat) (pc : Nat) (u : Interpreter) : Prop where
  cell : u.head < u.tape.size
  instruction : pc ≤ program.length
  table : partners.size = program.length
  partner : pc < program.length → ∃ k, partners[pc]? = some k ∧ k < program.length

end Interpreter

end Brainfuck
