import Brainfuck.Code.Llvm
import Brainfuck.Instruction.Balance
/-!
# The control-flow graph of LLVM lines

Lines are cut into blocks where a block is opened; those in front of the first belong to `entry`. An edge leads
from a block to each block that one of its lines branches to. `WellFormed` is the graph that the code of a
program should have.
-/

namespace Brainfuck.Llvm

/-! ## Blocks -/

/-- A block of a function: its name, and the lines behind it. -/
structure BasicBlock where
  name : String
  lines : List Line
deriving DecidableEq

/-- The lines in front of the first block that is opened, and the blocks that are opened. -/
def cut : List Line → List Line × List BasicBlock
  | [] => ([], [])
  | .block b :: ls => ([], ⟨b.name, (cut ls).1⟩ :: (cut ls).2)
  | line :: ls => (line :: (cut ls).1, (cut ls).2)

/-- The blocks of lines, the first of which belong to the block of the given name. -/
def blocksFrom (name : String) (ls : List Line) : List BasicBlock := ⟨name, (cut ls).1⟩ :: (cut ls).2

def basicBlocks (ls : List Line) : List BasicBlock := blocksFrom "entry" ls

/-- Does the line end its block? -/
def Line.isTerminator : Line → Bool
  | branch _ | branchIf .. | returnZero => true
  | _ => false

/-- The block ends with its last line, and not before. -/
def BasicBlock.Closed (b : BasicBlock) : Prop :=
  ∃ body last, b.lines = body ++ [last] ∧ last.isTerminator = true ∧ ∀ line ∈ body, line.isTerminator = false

/-! ## Edges -/

/-- The blocks that a line branches to. -/
def Line.targets : Line → List String
  | branch target => [target.name]
  | branchIf _ target otherwise => [target.name, otherwise.name]
  | _ => []

/-- The edges from block to block, in the order of the text. -/
def edges (bs : List BasicBlock) : List (String × String) :=
  bs.flatMap fun b => (b.lines.flatMap Line.targets).map fun target => (b.name, target)

/-- Where the edges to a block come from. -/
def sources (bs : List BasicBlock) (target : String) : List String :=
  ((edges bs).filter fun e => e.2 = target).map Prod.fst

/-! ## The graph of a program -/

def labelName (id : Nat) : String := (Block.label ⟨id⟩).name

def loopEndName (index : Nat) : String := (Block.loopEnd index).name

/-- The blocks of a program with so many loops. -/
def blockNames (loops : Nat) : List String :=
  "entry" :: ((List.range (2 * loops)).map labelName ++ (List.range loops).map loopEndName)

/-- The block that is written behind instructions, if they begin in the block of the given name, and `n` labels
and `m` ends of loops have been used before: the body of the loop that started last, or what follows the loop
that finished last. -/
def blockAfter (name : String) (n m : Nat) : List Instruction → String
  | [] => name
  | .startLoop :: rest => blockAfter (labelName (n + 1)) (n + 2) m rest
  | .finishLoop :: rest => blockAfter (loopEndName m) n (m + 1) rest
  | _ :: rest => blockAfter name n m rest

/-- The three blocks of a loop among the others: its condition, its body and what follows it. `before` is the
block in front of the loop, `bodyEnd` the one at the end of its body. -/
structure LoopGraph (bs : List BasicBlock) (condition entry exit before bodyEnd : String) : Prop where
  /-- The condition is reached from before the loop and from the end of its body. -/
  toCondition : sources bs condition = [before, bodyEnd]
  toEntry : sources bs entry = [condition]
  toExit : sources bs exit = [condition]
  /-- The body is written behind what is before the loop. -/
  atStart : [before, entry] <:+: bs.map BasicBlock.name
  /-- The condition is written behind the body, and what follows the loop behind the condition. -/
  atFinish : [bodyEnd, condition, exit] <:+: bs.map BasicBlock.name

structure WellFormed (program : List Instruction) (bs : List BasicBlock) : Prop where
  /-- Each block is there, once. -/
  names : (bs.map BasicBlock.name).Perm (blockNames (program.count .startLoop))
  nodup : (bs.map BasicBlock.name).Nodup
  closed : ∀ b ∈ bs, b.Closed
  targets : ∀ e ∈ edges bs, e.2 ∈ bs.map BasicBlock.name ∧ e.2 ≠ "entry"
  /-- The last block returns, and no other. -/
  returns : ∃ front last, bs = front ++ [last] ∧ last.lines.getLast? = some .returnZero ∧
    (bs.flatMap BasicBlock.lines).count .returnZero = 1
  loops : ∀ before body after, program = before ++ .startLoop :: (body ++ .finishLoop :: after) → Balanced body →
    let i := before.count .startLoop
    LoopGraph bs (labelName (2 * i)) (labelName (2 * i + 1)) (loopEndName ((before ++ body).count .finishLoop))
      (blockAfter "entry" 0 0 before) (blockAfter "entry" 0 0 (before ++ .startLoop :: body))

end Brainfuck.Llvm
