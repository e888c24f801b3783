import Brainfuck.Source
/-!
# The instructions of a source

Comments are dropped, a run of commands that count the same thing becomes one instruction, and a run whose
count cancels out disappears. Cancelled runs still separate their neighbours: `+><+` is two increments.

`Source.instructions` is the whole list. A `Cursor` hands out the same instructions one at a time and
reads no further than it has to.
-/

namespace Brainfuck

/-! ## All at once -/

/-- Merges an instruction into the last of those collected, newest first, or adds it. -/
def pushMerged (collected : List Instruction) (i : Instruction) : List Instruction :=
  match collected with
  | [] => [i]
  | last :: earlier =>
    match last.merge? i with
    | some merged => merged :: earlier
    | none => i :: collected

/-- The instructions of a text, whether or not its brackets pair up. -/
def instructionsOf (text : List Char) : List Instruction :=
  ((text.filterMap Instruction.ofChar?).foldl pushMerged []).reverse.filter Instruction.isEffective

/-- The instructions of a source as they are written: one for each command, none merged or dropped. -/
def Source.unmerged (s : Source) : List Instruction :=
  s.text.toList.filterMap Instruction.ofChar?

def Source.instructions (s : Source) : List Instruction :=
  instructionsOf s.text.toList

/-! ## One at a time -/

/-- A place between two instructions of a text: the characters not read yet, and the run in progress. -/
structure Cursor where
  pending : Option Instruction
  rest : List Char

namespace Cursor

def start (s : Source) : Cursor := ⟨none, s.text.toList⟩

/-- Finishes the run `pending`, which the next command may still extend. -/
def takeFrom : Option Instruction → List Char → Option Instruction × Cursor
  | none, [] => (none, ⟨none, []⟩)
  | some run, [] => (if run.isEffective then some run else none, ⟨none, []⟩)
  | none, c :: rest => takeFrom (Instruction.ofChar? c) rest
  | some run, c :: rest =>
    match Instruction.ofChar? c with
    | none => takeFrom (some run) rest
    | some i =>
      match run.merge? i with
      | some merged => takeFrom (some merged) rest
      | none => if run.isEffective then (some run, ⟨some i, rest⟩) else takeFrom (some i) rest

/-- The next instruction, or nothing at the end, and where to go on. -/
def next (c : Cursor) : Option Instruction × Cursor :=
  takeFrom c.pending c.rest

/-- The answers to so many calls of `next`. -/
def pull : Nat → Cursor → List (Option Instruction)
  | 0, _ => []
  | n + 1, c =>
    let (item, c') := c.next
    item :: pull n c'

end Cursor

end Brainfuck
