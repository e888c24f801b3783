import Brainfuck.Error
import Brainfuck.Instruction
/-!
# Log

What a computation reports while it works. A report is an `Event`; its level, its component and its text
are read off it only when somebody looks. `Logged` is a computation that may fail and that reports events
in order, up to and including the ones before its failure.
-/

namespace Brainfuck

/-- Severities, the most severe first. -/
inductive Level where
  | error
  | warn
  | info
  | debug
  | trace
deriving DecidableEq

inductive Event where
  | validatingSource
  | generatingCode
  | unexpectedClosing (position : Nat)
  | unclosedOpenings (count : Nat)
  | sourceValidated
  | generating (target : Target) (tapeLength : Nat)
  | lowering (instruction : Instruction) (depth : Nat)
  | generated (instructions labels : Nat)
  | writingSource (target : Target) (path : String)
  | runningDriver (driver : String) (arguments : List String)
  | executableWritten (path : String)
  | openingSource (path : String)
  | runningProgram (instructions : Nat)
  | failed (message : String)
deriving DecidableEq

namespace Level

def name : Level → String
  | error => "ERROR"
  | warn => "WARN"
  | info => "INFO"
  | debug => "DEBUG"
  | trace => "TRACE"

/-- Greater means more talkative. -/
def verbosity : Level → Nat
  | error => 1
  | warn => 2
  | info => 3
  | debug => 4
  | trace => 5

end Level

namespace Event

def level : Event → Level
  | failed _ => .error
  | executableWritten _ => .info
  | sourceValidated | lowering _ _ => .trace
  | _ => .debug

/-- The component that reports the event. -/
def component : Event → String
  | validatingSource | generatingCode | openingSource _ | runningProgram _ | failed _ => "bfcc"
  | unexpectedClosing _ | unclosedOpenings _ | sourceValidated => "bfcc::validator"
  | generating _ _ | lowering _ _ | generated _ _ => "bfcc::codegen"
  | writingSource _ _ | runningDriver _ _ | executableWritten _ => "bfcc::artifact"

def message : Event → String
  | validatingSource => "Validating source."
  | generatingCode => "Generating code."
  | unexpectedClosing position => "Unexpected ']' at position " ++ toString position ++ "."
  | unclosedOpenings count => toString count ++ " unclosed '[' found."
  | sourceValidated => "Source validated."
  | generating target tapeLength =>
    "Generating " ++ target.name ++ " code for a tape of " ++ toString tapeLength ++ " cells."
  | lowering instruction depth =>
    "Lowering " ++ instruction.text ++ " at depth " ++ toString depth ++ "."
  | generated instructions labels =>
    "Generated code for " ++ toString instructions ++ " instructions using " ++ toString labels ++ " labels."
  | writingSource target path => "Writing " ++ target.name ++ " code to " ++ path ++ "."
  | runningDriver driver arguments => "Running " ++ " ".intercalate (driver :: arguments) ++ "."
  | executableWritten path => "Executable written to " ++ path ++ "."
  | openingSource path => "Opening " ++ path ++ "."
  | runningProgram instructions => "Running " ++ toString instructions ++ " instructions."
  | failed message => message

end Event

/-! ## Computations that report -/

structure Logged (α : Type) where
  result : Except Error α
  events : Array Event

namespace Logged

variable {α β : Type}

def pure (a : α) : Logged α := ⟨.ok a, #[]⟩

def fail (e : Error) : Logged α := ⟨.error e, #[]⟩

def report (e : Event) : Logged Unit := ⟨.ok (), #[e]⟩

/-- The second computation runs only if the first succeeds; its events follow. -/
def bind (x : Logged α) (f : α → Logged β) : Logged β :=
  match x with
  | ⟨.error e, events⟩ => ⟨.error e, events⟩
  | ⟨.ok a, events⟩ =>
    let y := f a
    ⟨y.result, events ++ y.events⟩

instance : Monad Logged where
  pure := pure
  bind := bind

end Logged

end Brainfuck
