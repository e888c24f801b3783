import Brainfuck.Code.C
import Brainfuck.Code.Llvm
import Brainfuck.Source.Instructions
/-!
# Code

A program written in one of the target languages. `Code.ofProgram` writes instructions, `Code.ofText` a
text that has to be a source.
-/

namespace Brainfuck

structure Code where
  target : Target
  text : String
deriving DecidableEq

namespace Code

/-- Writes linear code in the language of a target. -/
def ofLinear (target : Target) (code : List Op) : Code :=
  match target with
  | .llvm => ⟨.llvm, Llvm.text code⟩
  | .c => ⟨.c, C.text code⟩

def ofProgram (target : Target) (tapeLength : Nat) (program : List Instruction) : Logged Code := do
  .report (.generating target tapeLength)
  let linear ← lower tapeLength program
  return ofLinear target linear

def ofText (target : Target) (tapeLength : Nat) (text : String) : Logged Code := do
  .report .validatingSource
  let source ← readSource text
  .report .generatingCode
  ofProgram target tapeLength source.instructions

end Code

end Brainfuck
