import Brainfuck.CommandLine.Arguments
import Brainfuck.Options
/-!
# Requests

What a command line asks for, or why it makes no sense. Of several reasons the first counts, in the order:
source, action, tape length, target, level.
-/

namespace Brainfuck.CommandLine

/-- Where the program comes from. -/
inductive Origin where
  | file (path : String)
  | code (text : String)
deriving DecidableEq

/-- What is to be done with the program. -/
inductive Action where
  | executable (path : String)
  | emitSource (path : String)
  | run
deriving DecidableEq

structure Request where
  origin : Origin
  action : Action
  options : Options
deriving DecidableEq

inductive RequestError where
  | twoOrigins
  | noOrigin
  | runWithOut
  | runWithEmitSource
  | noOut
  | invalidTapeLength (text : String)
  | unknownTarget (e : UnknownTarget)
  | invalidLevel (text : String)
deriving DecidableEq

def RequestError.message : RequestError → String
  | twoOrigins => "--file and --code cannot be used at the same time."
  | noOrigin => "One of --file or --code is required."
  | runWithOut => "--run cannot be used together with --out."
  | runWithEmitSource => "--run cannot be used together with --emit-source."
  | noOut => "--out is required."
  | invalidTapeLength text => "Invalid tape length: " ++ text ++ ". It must be a positive integer."
  | unknownTarget e => e.message
  | invalidLevel text => "Invalid optimization level: " ++ text ++ "."

/-! ## Numbers -/

/-- The value of decimal digits; nothing else is a number. -/
def digitsValue : List Char → Nat → Option Nat
  | [], value => some value
  | c :: rest, value =>
    if c.isDigit then digitsValue rest (value * 10 + (c.toNat - 48)) else none

/-- Reads a number up to `greatest`: digits, with or without a plus in front. -/
def readNumber (greatest : Nat) (text : String) : Option Nat :=
  let digits := match text.toList with
    | '+' :: digits => digits
    | digits => digits
  match digits with
  | [] => none
  | digits =>
    match digitsValue digits 0 with
    | none => none
    | some n => if n ≤ greatest then some n else none

/-- The longest tape that can be asked for. -/
def greatestTapeLength : Nat := 18446744073709551615

/-- The highest level that can be asked for. -/
def greatestLevel : Nat := 4294967295

/-! ## Parts of a request -/

namespace Arguments

def origin (a : Arguments) : Except RequestError Origin :=
  match a.file, a.code with
  | some _, some _ => .error .twoOrigins
  | none, none => .error .noOrigin
  | some path, none => .ok (.file path)
  | none, some text => .ok (.code text)

def action (a : Arguments) : Except RequestError Action :=
  match a.run, a.emitSource, a.out with
  | true, _, some _ => .error .runWithOut
  | true, true, none => .error .runWithEmitSource
  | true, false, none => .ok .run
  | false, _, none => .error .noOut
  | false, true, some path => .ok (.emitSource path)
  | false, false, some path => .ok (.executable path)

def tapeLength (a : Arguments) : Except RequestError Nat :=
  match a.tape with
  | none => .ok defaultTapeLength
  | some text =>
    match readNumber greatestTapeLength text with
    | some (n + 1) => .ok (n + 1)
    | _ => .error (.invalidTapeLength text)

def targetLanguage (a : Arguments) : Except RequestError Target :=
  match a.target with
  | none => .ok default
  | some name => (Target.ofName name).mapError .unknownTarget

def optimizationLevel (a : Arguments) : Except RequestError Nat :=
  match a.level with
  | none => .ok defaultOptimizationLevel
  | some text =>
    match readNumber greatestLevel text with
    | some n => .ok n
    | none => .error (.invalidLevel text)

def request (env : Environment) (a : Arguments) : Except RequestError Request := do
  let origin ← a.origin
  let action ← a.action
  let tapeLength ← a.tapeLength
  let target ← a.targetLanguage
  let level ← a.optimizationLevel
  let choices := (((Options.Choices.initial env).setTapeLength tapeLength).setTarget target).setOptimizationLevel level
  let choices := match a.driver with
    | some driver => choices.setDriver driver
    | none => choices
  return { origin := origin, action := action, options := choices.options env }

end Arguments

end Brainfuck.CommandLine
