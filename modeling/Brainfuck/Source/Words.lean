import Brainfuck.Source.Instructions
import Brainfuck.Source.RunLength
import Mathlib.Algebra.Group.Int.Defs
/-!
# Reading with counts of 64 bits

Which program a text is read as, when no sum of a run may leave the numbers of 64 bits. `HasAlikeNeighbours` tells the
programs that their own commands are not read as: two counts of the same thing in a row would become one.
-/

namespace Brainfuck

namespace Instruction

/-- Is the count a number of 64 bits? -/
def isWord : Instruction → Bool
  | increment count | moveHead count => -2 ^ 63 ≤ count && count < 2 ^ 63
  | _ => true

/-- Do two instructions count the same thing? -/
def alike : Instruction → Instruction → Bool
  | increment _, increment _ | moveHead _, moveHead _ => true
  | _, _ => false

end Instruction

/-- However many of the commands have been merged into those collected, every count is a number of 64 bits. -/
def SumsAreWords (collected commands : List Instruction) : Prop :=
  ∀ n, ∀ i ∈ (commands.take n).foldl pushMerged collected, i.isWord = true

/-- The text is a source with these instructions, and no sum on the way to them is too large. -/
def ReadsAs (text : String) (program : List Instruction) : Prop :=
  ∃ source, Source.ofText text = .ok source ∧ source.instructions = program ∧ SumsAreWords [] source.unmerged

/-- The text of the commands of a program. -/
def renderedText (program : List Instruction) : String := String.ofList (commandsOf program)

def HasAlikeNeighbours (program : List Instruction) : Prop :=
  ∃ before i j after, program = before ++ i :: j :: after ∧ i.alike j = true

end Brainfuck
