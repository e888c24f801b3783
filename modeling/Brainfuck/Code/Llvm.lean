import Brainfuck.Code.Linear
/-!
# LLVM code

The target text in LLVM's intermediate representation. An operation becomes a few `Line`s; `Line.render`
writes a line down. The program links against the C library, which supplies the tape and the byte streams.

Values are numbered in the order in which lines define them. A block must end with a terminator, so
before a label a branch to it is written unless the block has ended already.
-/

namespace Brainfuck.Llvm

/-- The name of a block. `loopEnd` blocks hold what follows a conditional branch. -/
inductive Block where
  | label (l : Label)
  | loopEnd (index : Nat)
deriving DecidableEq

/-- The number of a value. -/
abbrev Value := Nat

inductive Line where
  | allocateHead
  | allocateTape (length : Nat)
  | clearHead
  | loadHead (result : Value)
  | cellAddress (result head : Value)
  | loadCell (result address : Value)
  | addByte (result left : Value) (right : Int)
  | storeCell (value address : Value)
  | addHead (result left : Value) (right : Int)
  | storeHead (value : Value)
  | getchar (result : Value)
  | isEof (result read : Value)
  | truncate (result wide : Value)
  | zeroIf (result condition byte : Value)
  | widen (result byte : Value)
  | putchar (wide : Value)
  | isNonzero (result byte : Value)
  | branch (target : Block)
  | branchIf (condition : Value) (target otherwise : Block)
  | block (name : Block)
  | freeTape
  | returnZero
deriving DecidableEq

/-! ## Text -/

def Block.name : Block → String
  | label l => "label_" ++ toString l.id
  | loopEnd index => "loop_end_" ++ toString index

def valueName (v : Value) : String := "%v" ++ toString v

/-- A line of the current block, indented. -/
def statement (text : String) : String := "  " ++ text ++ "\n"

def assignment (result : Value) (text : String) : String :=
  statement (valueName result ++ " = " ++ text)

def Line.render : Line → String
  | allocateHead => statement "%head = alloca i64"
  | allocateTape length => statement ("%tape = call ptr @calloc(i64 " ++ toString length ++ ", i64 1)")
  | clearHead => statement "store i64 0, ptr %head"
  | loadHead result => assignment result "load i64, ptr %head"
  | cellAddress result head => assignment result ("getelementptr i8, ptr %tape, i64 " ++ valueName head)
  | loadCell result address => assignment result ("load i8, ptr " ++ valueName address)
  | addByte result left right =>
    assignment result ("add i8 " ++ valueName left ++ ", " ++ toString right)
  | storeCell value address => statement ("store i8 " ++ valueName value ++ ", ptr " ++ valueName address)
  | addHead result left right =>
    assignment result ("add i64 " ++ valueName left ++ ", " ++ toString right)
  | storeHead value => statement ("store i64 " ++ valueName value ++ ", ptr %head")
  | getchar result => assignment result "call i32 @getchar()"
  | isEof result read => assignment result ("icmp eq i32 " ++ valueName read ++ ", -1")
  | truncate result wide => assignment result ("trunc i32 " ++ valueName wide ++ " to i8")
  | zeroIf result condition byte =>
    assignment result ("select i1 " ++ valueName condition ++ ", i8 0, i8 " ++ valueName byte)
  | widen result byte => assignment result ("zext i8 " ++ valueName byte ++ " to i32")
  | putchar wide => statement ("call i32 @putchar(i32 " ++ valueName wide ++ ")")
  | isNonzero result byte => assignment result ("icmp ugt i8 " ++ valueName byte ++ ", 0")
  | branch target => statement ("br label %" ++ target.name)
  | branchIf condition target otherwise =>
    statement ("br i1 " ++ valueName condition ++ ", label %" ++ target.name ++ ", label %" ++ otherwise.name)
  | block name => "\n" ++ name.name ++ ":\n"
  | freeTape => statement "call void @free(ptr %tape)"
  | returnZero => statement "ret i32 0"

/-- What stands before the lines: the functions of the C library, and the opening of `main`. -/
def header : String :=
  "; ModuleID = 'brainfuck'\n" ++
  "source_filename = \"brainfuck\"\n" ++
  "\n" ++
  "declare ptr @calloc(i64, i64)\n" ++
  "declare void @free(ptr)\n" ++
  "declare i32 @getchar()\n" ++
  "declare i32 @putchar(i32)\n" ++
  "\n" ++
  "define i32 @main() \x7b\n" ++
  "entry:\n"

def footer : String := "\x7d\n"

/-! ## Lines -/

/-- Lines written so far. `terminated` says whether the current block has ended. -/
structure Listing where
  lines : Array Line
  nextValue : Nat
  nextBlock : Nat
  terminated : Bool

namespace Listing

def start : Listing := { lines := #[], nextValue := 0, nextBlock := 0, terminated := false }

/-- Writes lines that define so many values. -/
def write (s : Listing) (values : Nat) (lines : List Line) : Listing :=
  { s with lines := s.lines ++ lines, nextValue := s.nextValue + values }

/-- Opens a block. A block that has not ended falls into it by a branch. -/
def enter (s : Listing) (name : Block) : Listing :=
  match s with
  | ⟨lines, nextValue, nextBlock, true⟩ => ⟨lines.push (.block name), nextValue, nextBlock, false⟩
  | ⟨lines, nextValue, nextBlock, false⟩ =>
    ⟨(lines.push (.branch name)).push (.block name), nextValue, nextBlock, false⟩

/-- Ends the block. -/
def terminate (s : Listing) (line : Line) : Listing :=
  { s with lines := s.lines.push line, terminated := true }

/-- Ends the block with a branch to `target`, and opens one for what follows if it is not taken. -/
def branchIf (s : Listing) (condition : Value) (target : Block) : Listing :=
  match s with
  | ⟨lines, nextValue, nextBlock, _⟩ =>
    let after := Block.loopEnd nextBlock
    ⟨(lines.push (.branchIf condition target after)).push (.block after), nextValue, nextBlock + 1, false⟩

/-- Writes the lines of one operation. The value numbers count from the next free one. -/
def op (s : Listing) : Op → Listing
  | .allocate tapeLength => s.write 0 [.allocateHead, .allocateTape tapeLength, .clearHead]
  | .increment amount =>
    let v := s.nextValue
    s.write 4
      [.loadHead v, .cellAddress (v + 1) v, .loadCell (v + 2) (v + 1),
        .addByte (v + 3) (v + 2) amount.toInt8.toInt, .storeCell (v + 3) (v + 1)]
  | .moveHead offset =>
    let v := s.nextValue
    s.write 2 [.loadHead v, .addHead (v + 1) v offset, .storeHead (v + 1)]
  | .input =>
    let v := s.nextValue
    s.write 6
      [.loadHead v, .cellAddress (v + 1) v, .getchar (v + 2), .isEof (v + 3) (v + 2),
        .truncate (v + 4) (v + 2), .zeroIf (v + 5) (v + 3) (v + 4), .storeCell (v + 5) (v + 1)]
  | .output =>
    let v := s.nextValue
    s.write 4
      [.loadHead v, .cellAddress (v + 1) v, .loadCell (v + 2) (v + 1), .widen (v + 3) (v + 2),
        .putchar (v + 3)]
  | .jump target => s.terminate (.branch (.label target))
  | .mark label => s.enter (.label label)
  | .jumpIfNonzero target =>
    let v := s.nextValue
    (s.write 4
      [.loadHead v, .cellAddress (v + 1) v, .loadCell (v + 2) (v + 1), .isNonzero (v + 3) (v + 2)]).branchIf
        (v + 3) (.label target)
  | .halt => (s.write 0 [.freeTape]).terminate .returnZero

end Listing

/-- The lines of linear code. -/
def lines (code : List Op) : List Line :=
  (code.foldl Listing.op .start).lines.toList

/-- The text of linear code. -/
def text (code : List Op) : String :=
  (lines code).foldl (fun written line => written ++ line.render) header ++ footer

end Brainfuck.Llvm
