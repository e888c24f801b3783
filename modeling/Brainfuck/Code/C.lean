import Brainfuck.Code.Linear
/-!
# C code

The target text in C. Every operation becomes one or two `Line`s of the body of `main`; marks and jumps
become labels and `goto`s. Labels stay in the first column.
-/

namespace Brainfuck.C

inductive Line where
  | allocateTape (length : Nat)
  | clearHead
  | addToCell (amount : UInt8)
  | addToHead (offset : Int)
  | readCell
  | writeCell
  | goto (target : Label)
  | label (l : Label)
  | gotoIfNonzero (target : Label)
  | freeTape
  | returnZero
deriving DecidableEq

/-! ## Text -/

def labelName (l : Label) : String := "label_" ++ toString l.id

/-- A line of the body, indented. -/
def statement (text : String) : String := "    " ++ text ++ "\n"

def Line.render : Line → String
  | allocateTape length =>
    statement ("unsigned char *tape = calloc(" ++ toString length ++ ", 1);")
  | clearHead => statement "long head = 0;"
  | addToCell amount =>
    statement ("tape[head] = (unsigned char)(tape[head] + " ++ toString amount.toNat ++ ");")
  | addToHead offset => statement ("head += " ++ toString offset ++ ";")
  | readCell =>
    statement "\x7b int c = getchar(); tape[head] = c == EOF ? 0 : (unsigned char)c; \x7d"
  | writeCell => statement "putchar(tape[head]);"
  | goto target => statement ("goto " ++ labelName target ++ ";")
  | label l => labelName l ++ ":\n"
  | gotoIfNonzero target => statement ("if (tape[head] > 0) goto " ++ labelName target ++ ";")
  | freeTape => statement "free(tape);"
  | returnZero => statement "return 0;"

/-- What stands before the body. -/
def header : String :=
  "#include <stdio.h>\n" ++
  "#include <stdlib.h>\n" ++
  "\n" ++
  "int main(void) \x7b\n"

def footer : String := "\x7d\n"

/-! ## Lines -/

/-- The lines of one operation. -/
def opLines : Op → List Line
  | .allocate tapeLength => [.allocateTape tapeLength, .clearHead]
  | .increment amount => [.addToCell amount]
  | .moveHead offset => [.addToHead offset]
  | .input => [.readCell]
  | .output => [.writeCell]
  | .jump target => [.goto target]
  | .mark l => [.label l]
  | .jumpIfNonzero target => [.gotoIfNonzero target]
  | .halt => [.freeTape, .returnZero]

/-- The lines of linear code. -/
def lines (code : List Op) : List Line := code.flatMap opLines

/-- The text of linear code. -/
def text (code : List Op) : String :=
  (lines code).foldl (fun written line => written ++ line.render) header ++ footer

end Brainfuck.C
