import Brainfuck.Interpreter
import Brainfuck.Target
/-!
# Options

What a compilation depends on. `Choices` holds the last value chosen for each option; a driver that was never
chosen follows the target and the environment when the choices become options.
-/

namespace Brainfuck

/-- The environment variables a program sees. -/
structure Environment where
  entries : List (String × String)

namespace Environment

def value? (env : Environment) (name : String) : Option String :=
  env.entries.lookup name

/-- The compiler driver for a target where none is chosen. `BFCC_CC` goes first, then what is usual for
the target. -/
def driverFor (env : Environment) (target : Target) : String :=
  match env.value? "BFCC_CC" with
  | some driver => driver
  | none =>
    match target with
    | .llvm => "clang"
    | .c => (env.value? "CC").getD "cc"

/-- The directory for temporary files. -/
def temporaryDirectory (env : Environment) : String := (env.value? "TMPDIR").getD "/tmp"

end Environment

@[ext]
structure Options where
  tapeLength : Nat
  target : Target
  driver : String
  optimizationLevel : Nat
deriving DecidableEq

/-- The highest optimization level drivers know. -/
def maxOptimizationLevel : Nat := 3

/-- The optimization level where none is chosen. -/
def defaultOptimizationLevel : Nat := 2

namespace Options

/-- The options where nothing is chosen. -/
def standard (env : Environment) : Options :=
  { tapeLength := defaultTapeLength
    target := default
    driver := env.driverFor default
    optimizationLevel := defaultOptimizationLevel }

/-- Options in the making. The driver among the settings is only what it would be if nothing were chosen: it does not
follow the target, and no options are made with it. -/
@[ext]
structure Choices where
  settings : Options
  driver : Option String

namespace Choices

/-- Nothing is chosen yet. Unless an environment is given, no variable is set in it. -/
def initial (env : Environment := ⟨[]⟩) : Choices := { settings := standard env, driver := none }

def setTapeLength (c : Choices) (length : Nat) : Choices :=
  { c with settings := { c.settings with tapeLength := length } }

def setTarget (c : Choices) (target : Target) : Choices :=
  { c with settings := { c.settings with target := target } }

def setDriver (c : Choices) (driver : String) : Choices := { c with driver := some driver }

/-- Levels above the highest count as the highest. -/
def setOptimizationLevel (c : Choices) (level : Nat) : Choices :=
  { c with settings := { c.settings with optimizationLevel := min level maxOptimizationLevel } }

def options (env : Environment) (c : Choices) : Options :=
  { c.settings with driver := c.driver.getD (env.driverFor c.settings.target) }

end Choices

end Options

end Brainfuck
