import Brainfuck.CommandLine.Request
import Mathlib.Data.Nat.Digits.Defs
/-!
# Arguments that make sense

Which combinations of arguments ask for something, what it is that they ask for, and what is said about those that do
not.
-/

namespace Brainfuck.CommandLine

/-- The text consists of digits, with or without a plus in front, and they stand for the number. -/
def Denotes (text : String) (n : Nat) : Prop :=
  ∃ digits : List Char, digits ≠ [] ∧ (text.toList = digits ∨ text.toList = '+' :: digits) ∧
    (∀ c ∈ digits, '0' ≤ c ∧ c ≤ '9') ∧ n = Nat.ofDigits 10 (digits.reverse.map fun c => c.toNat - '0'.toNat)

namespace Arguments

/-! ## What is checked -/

def HasOneOrigin (a : Arguments) : Prop :=
  a.file.isSome ∧ a.code = none ∨ a.file = none ∧ a.code.isSome

def HasOneAction (a : Arguments) : Prop :=
  a.run = true ∧ a.out = none ∧ a.emitSource = false ∨ a.run = false ∧ a.out.isSome

def HasTapeLength (a : Arguments) : Prop :=
  ∀ text, a.tape = some text → ∃ n, Denotes text n ∧ 1 ≤ n ∧ n < 2 ^ 64

def HasLevel (a : Arguments) : Prop :=
  ∀ text, a.level = some text → ∃ n, Denotes text n ∧ n < 2 ^ 32

structure MakesSense (a : Arguments) : Prop where
  origin : a.HasOneOrigin
  action : a.HasOneAction
  tapeLength : a.HasTapeLength
  level : a.HasLevel

/-- What is said of the first check that the arguments do not pass. -/
inductive Refused (a : Arguments) : String → Prop
  | twoOrigins : a.file.isSome → a.code.isSome → Refused a "--file and --code cannot be used at the same time."
  | noOrigin : a.file = none → a.code = none → Refused a "One of --file or --code is required."
  | runWithOut : a.HasOneOrigin → a.run = true → a.out.isSome →
      Refused a "--run cannot be used together with --out."
  | runWithEmitSource : a.HasOneOrigin → a.run = true → a.out = none → a.emitSource = true →
      Refused a "--run cannot be used together with --emit-source."
  | noOut : a.HasOneOrigin → a.run = false → a.out = none → Refused a "--out is required."
  | tapeLength {text} : a.HasOneOrigin → a.HasOneAction → a.tape = some text → ¬ a.HasTapeLength →
      Refused a ("Invalid tape length: " ++ text ++ ". It must be a positive integer.")
  | level {text} : a.HasOneOrigin → a.HasOneAction → a.HasTapeLength → a.level = some text → ¬ a.HasLevel →
      Refused a ("Invalid optimization level: " ++ text ++ ".")

/-! ## What is asked for -/

structure AsksFor (env : Environment) (a : Arguments) (request : Request) : Prop where
  file : ∀ path, a.file = some path → request.origin = .file path
  code : ∀ text, a.code = some text → request.origin = .code text
  run : a.run = true → request.action = .run
  emitSource : ∀ path, a.out = some path → a.emitSource = true → request.action = .emitSource path
  executable : ∀ path, a.out = some path → a.emitSource = false → request.action = .executable path
  tapeLength : a.tape = none → request.options.tapeLength = 30000
  tapeLengthGiven : ∀ text, a.tape = some text → Denotes text request.options.tapeLength
  target : a.target = none → request.options.target = .llvm
  targetGiven : ∀ name, a.target = some name → request.options.target.name = name
  level : a.level = none → request.options.optimizationLevel = 2
  levelGiven : ∀ text, a.level = some text → ∃ n, Denotes text n ∧ request.options.optimizationLevel = min n 3
  driver : a.driver = none → request.options.driver = env.driverFor request.options.target
  driverGiven : ∀ driver, a.driver = some driver → request.options.driver = driver

end Arguments

end Brainfuck.CommandLine
