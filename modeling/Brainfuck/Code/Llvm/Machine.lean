import Brainfuck.Code.Llvm
import Brainfuck.Execution
/-!
# The meaning of LLVM lines

A machine for the lines that the target writes. Values are defined by lines and keep what they were last
defined as; a line that uses an undefined value, a block that is not there, or a cell outside the tape
gets the machine stuck, and so does running from one block into the next without a branch.
-/

namespace Brainfuck.Llvm

/-- What a value can hold. A pointer is an offset into the tape. -/
inductive Content where
  | word (w : UInt64)
  | int (i : UInt32)
  | byte (b : UInt8)
  | flag (f : Bool)
  | pointer (offset : UInt64)
deriving DecidableEq

/-- The memory that holds the position of the head: not there, there but never written, or written. -/
inductive HeadSlot where
  | missing
  | unwritten
  | holds (position : UInt64)
deriving DecidableEq

structure Machine where
  values : Value → Option Content
  tape : Option (Array UInt8)
  head : HeadSlot
  input : List UInt8
  exchanges : Array Exchange

abbrev Step := Execution.Step Machine (Execution.Ending Machine)

namespace Machine

/-- Nothing is defined and nothing allocated yet. -/
def start (input : List UInt8) : Machine :=
  { values := fun _ => none, tape := none, head := .missing, input := input, exchanges := #[] }

def define (m : Machine) (v : Value) (c : Content) : Machine :=
  { m with values := fun w => if w = v then some c else m.values w }

def word? (m : Machine) (v : Value) : Option UInt64 :=
  match m.values v with
  | some (.word w) => some w
  | _ => none

def int? (m : Machine) (v : Value) : Option UInt32 :=
  match m.values v with
  | some (.int i) => some i
  | _ => none

def byte? (m : Machine) (v : Value) : Option UInt8 :=
  match m.values v with
  | some (.byte b) => some b
  | _ => none

def flag? (m : Machine) (v : Value) : Option Bool :=
  match m.values v with
  | some (.flag f) => some f
  | _ => none

def pointer? (m : Machine) (v : Value) : Option UInt64 :=
  match m.values v with
  | some (.pointer p) => some p
  | _ => none

/-- The position of the head, once it has been written. -/
def position? (m : Machine) : Option UInt64 :=
  match m.head with
  | .holds position => some position
  | _ => none

def setPosition? (m : Machine) (position : UInt64) : Option Machine :=
  match m.head with
  | .missing => none
  | _ => some { m with head := .holds position }

/-- The byte a pointer points to. -/
def load? (m : Machine) (address : Value) : Option UInt8 := do
  let offset ← m.pointer? address
  let tape ← m.tape
  tape[offset.toNat]?

/-- Stores a byte where a pointer points. -/
def store? (m : Machine) (b : UInt8) (address : Value) : Option Machine := do
  let offset ← m.pointer? address
  let tape ← m.tape
  if offset.toNat < tape.size then some { m with tape := some (tape.setIfInBounds offset.toNat b) }
  else none

/-- A byte of the input as a number, or the number -1 at its end. -/
def getchar (m : Machine) : UInt32 × Machine :=
  match m.input with
  | [] => (0 - 1, { m with exchanges := m.exchanges.push (.read none) })
  | b :: rest => (b.toUInt32, { m with input := rest, exchanges := m.exchanges.push (.read (some b)) })

/-- What a line that is no branch does. -/
def execute? (m : Machine) : Line → Option Machine
  | .allocateHead => some { m with head := .unwritten }
  | .allocateTape length => some { m with tape := some (Array.replicate length 0) }
  | .clearHead => m.setPosition? 0
  | .loadHead result => do return m.define result (.word (← m.position?))
  | .cellAddress result head => do return m.define result (.pointer (← m.word? head))
  | .loadCell result address => do return m.define result (.byte (← m.load? address))
  | .addByte result left right => do
    return m.define result (.byte ((← m.byte? left) + UInt8.ofInt right))
  | .storeCell value address => do m.store? (← m.byte? value) address
  | .addHead result left right => do
    return m.define result (.word ((← m.word? left) + UInt64.ofInt right))
  | .storeHead value => do m.setPosition? (← m.word? value)
  | .getchar result =>
    let (i, m) := m.getchar
    some (m.define result (.int i))
  | .isEof result read => do return m.define result (.flag ((← m.int? read) == 0 - 1))
  | .truncate result wide => do return m.define result (.byte (← m.int? wide).toUInt8)
  | .zeroIf result condition byte => do
    let f ← m.flag? condition
    let b ← m.byte? byte
    return m.define result (.byte (if f then 0 else b))
  | .widen result byte => do return m.define result (.int (← m.byte? byte).toUInt32)
  | .putchar wide => do
    let i ← m.int? wide
    return { m with exchanges := m.exchanges.push (.write i.toUInt8) }
  | .isNonzero result byte => do return m.define result (.flag ((← m.byte? byte) > 0))
  | .freeTape => m.tape.map fun _ => m
  | _ => none

end Machine

/-- The line that opens a block. -/
def blockLine? (lines : Array Line) (b : Block) : Option Nat :=
  lines.findIdx? fun line => line = .block b

/-- A branch goes behind the line that opens the block. -/
def branchTo (lines : Array Line) (b : Block) (m : Machine) : Step :=
  match blockLine? lines b with
  | none => .ended .stuck
  | some pc => .next (pc + 1) m

/-- Carries out the line at `pc`. -/
def step (lines : Array Line) (pc : Nat) (m : Machine) : Step :=
  match lines[pc]? with
  | none => .ended .stuck
  | some .returnZero => .ended (.halted m)
  | some (.branch target) => branchTo lines target m
  | some (.branchIf condition target otherwise) =>
    match m.flag? condition with
    | none => .ended .stuck
    | some f => branchTo lines (if f then target else otherwise) m
  | some line =>
    match m.execute? line with
    | none => .ended .stuck
    | some m => .next (pc + 1) m

/-- So many steps from `pc` on. A machine that has returned or is stuck stays so. -/
def steps (lines : Array Line) : Nat → Nat → Machine → Step := Execution.steps (step lines)

/-- On the given input, the program comes to its return in state `m`. -/
def Returns (lines : List Line) (input : List UInt8) (m : Machine) : Prop :=
  ∃ n, steps lines.toArray n 0 (.start input) = .ended (.halted m)

end Brainfuck.Llvm
