import Brainfuck.Options
/-!
# Calls on options in the making

Choices are made and options are built by calls in any order. What is built is told by the calls so far: `Chosen` are
the options that the last value given for each of them makes.
-/

namespace Brainfuck.Options

namespace Choices

inductive Call where
  | setTapeLength (length : Nat)
  | setTarget (target : Target)
  | setDriver (driver : String)
  | setOptimizationLevel (level : Nat)
  | build
deriving DecidableEq

/-- What a call answers, and the choices behind it. -/
def perform (env : Environment) (c : Choices) : Call → Option Options × Choices
  | .setTapeLength length => (none, c.setTapeLength length)
  | .setTarget target => (none, c.setTarget target)
  | .setDriver driver => (none, c.setDriver driver)
  | .setOptimizationLevel level => (none, c.setOptimizationLevel level)
  | .build => (some (c.options env), c)

/-- The choices behind calls. -/
def after (env : Environment) : Choices → List Call → Choices
  | c, [] => c
  | c, call :: calls => (c.perform env call).2.after env calls

/-- The answer to each call. -/
def answers (env : Environment) : Choices → List Call → List (Option Options)
  | _, [] => []
  | c, call :: calls => (c.perform env call).1 :: (c.perform env call).2.answers env calls

end Choices

/-! ## What calls choose -/

namespace Choices.Call

def tapeLength? : Call → Option Nat
  | setTapeLength length => some length
  | _ => none

def target? : Call → Option Target
  | setTarget target => some target
  | _ => none

def driver? : Call → Option String
  | setDriver driver => some driver
  | _ => none

def optimizationLevel? : Call → Option Nat
  | setOptimizationLevel level => some level
  | _ => none

end Choices.Call

open Choices (Call)

/-- The last value that calls give. -/
def lastGiven {α : Type} (value? : Call → Option α) (calls : List Call) : Option α :=
  (calls.filterMap value?).getLast?

/-- The options that these calls choose. The driver that was given last stays for any target; where none was given it
goes by the target and by the environment. -/
structure Chosen (env : Environment) (past : List Call) (options : Options) : Prop where
  tapeLength : options.tapeLength = (lastGiven Call.tapeLength? past).getD 30000
  target : options.target = (lastGiven Call.target? past).getD .llvm
  optimizationLevel :
    options.optimizationLevel = ((lastGiven Call.optimizationLevel? past).map fun level => min level 3).getD 2
  driverGiven : ∀ driver, lastGiven Call.driver? past = some driver → options.driver = driver
  driverOfVariable : lastGiven Call.driver? past = none →
    ∀ driver, env.value? "BFCC_CC" = some driver → options.driver = driver
  driverOfLlvm : lastGiven Call.driver? past = none → env.value? "BFCC_CC" = none →
    options.target = .llvm → options.driver = "clang"
  driverOfC : lastGiven Call.driver? past = none → env.value? "BFCC_CC" = none →
    options.target = .c → options.driver = (env.value? "CC").getD "cc"

/-- Each setter is given the same values in the same order. Calls to different setters may stand in any order, and
builds anywhere. -/
structure SameChoices (past past' : List Call) : Prop where
  tapeLength : past.filterMap Call.tapeLength? = past'.filterMap Call.tapeLength?
  target : past.filterMap Call.target? = past'.filterMap Call.target?
  driver : past.filterMap Call.driver? = past'.filterMap Call.driver?
  optimizationLevel : past.filterMap Call.optimizationLevel? = past'.filterMap Call.optimizationLevel?

end Brainfuck.Options
