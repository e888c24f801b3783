import Brainfuck.Instruction
/-!
# Run lengths

The instructions of a source, said by cutting it up: the commands fall into maximal runs that change the
cell, maximal runs that move the head, and single commands; each piece is one instruction, unless its
counts cancel out. And the way back, from instructions to commands.
-/

namespace Brainfuck

def isCellChange (c : Char) : Bool := c = '+' || c = '-'

def isHeadMove (c : Char) : Bool := c = '>' || c = '<'

def isCommand (c : Char) : Bool := isCellChange c || isHeadMove c || ",.[]".toList.contains c

/-- Do two neighbours belong to one run? -/
def sameRun (a b : Char) : Bool := isCellChange a && isCellChange b || isHeadMove a && isHeadMove b

/-- How many more characters of one kind than of another a run has. -/
def excess (more less : Char) (run : List Char) : Int := (run.count more : Int) - run.count less

/-- The instruction of a piece. -/
def instructionOfRun? (run : List Char) : Option Instruction :=
  match run with
  | [] => none
  | c :: _ =>
    if isCellChange c then
      if excess '+' '-' run = 0 then none else some (.increment (excess '+' '-' run))
    else if isHeadMove c then
      if excess '>' '<' run = 0 then none else some (.moveHead (excess '>' '<' run))
    else Instruction.ofChar? c

/-- The run-length form of a text. -/
def runLengthForm (text : List Char) : List Instruction :=
  ((text.filter isCommand).splitBy sameRun).filterMap instructionOfRun?

/-! ## Back to commands -/

/-- So many commands of one kind, or of the other for a negative count. -/
def repeated (more less : Char) (count : Int) : List Char :=
  List.replicate count.natAbs (if 0 ≤ count then more else less)

/-- The commands an instruction stands for. -/
def Instruction.commands : Instruction → List Char
  | increment amount => repeated '+' '-' amount
  | moveHead offset => repeated '>' '<' offset
  | input => [',']
  | output => ['.']
  | startLoop => ['[']
  | finishLoop => [']']

/-- The commands of a program. -/
def commandsOf (program : List Instruction) : List Char := program.flatMap Instruction.commands

end Brainfuck
