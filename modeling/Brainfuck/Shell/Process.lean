import Brainfuck.Options
import Brainfuck.Shell.World
/-!
# Shell processes

The state of a shell while it runs: what it shares with others, and its own variables, descriptors and
settings. `Run` is what a shell does; it goes on or it is interrupted.
-/

namespace Brainfuck.Shell

structure Variable where
  value : Option String
  exported : Bool
  fixed : Bool

/-- How a process ended: with a status or by a signal. -/
inductive Ending where
  | exited (status : Nat)
  | killed (signal : Nat)

/-- The status that stands for an ending. -/
def Ending.status : Ending → Nat
  | exited status => status
  | killed signal => 128 + signal

/-- A process that a shell has put into the background. Once it is awaited its number is free. -/
structure Child where
  number : Nat
  ending : Ending
  awaited : Bool

/-- A shell. Its functions, traps and children are kept newest first; signals that are `ignored` never come. A
frame holds what the variables of a function hid. `line` is where the running command stands and `reached` how
far the text has been read. `located` are the programs that have been found, and whether the directory has
changed since. `pending` are the actions of signals that have come, `heldStatus` is the status in front of an
action that runs, and `tested` says whether the command that runs may fail. -/
structure Process where
  world : World
  number : Nat
  parent : Nat
  name : String
  arguments : List String
  bindings : List (String × Variable)
  functions : List (String × Command)
  flags : List Char
  traps : List (String × String)
  ignored : List String
  descriptors : List (Nat × Nat)
  documents : Array Word
  status : Nat
  line : Nat
  reached : Nat
  loops : Nat
  calls : Nat
  frames : List (List (String × Option Variable))
  builtin : Option String
  tested : Bool
  children : List Child
  located : List (String × Bool)
  aliases : List (String × String)
  pending : List String
  heldStatus : Option Nat
  creationMask : Nat
  substitutionStatus : Nat
  optionOffset : Nat

/-- Why a shell does not go on with the next command. -/
inductive Interruption where
  | exited (status : Nat)
  | failed (status : Nat)
  | broken (loops : Nat)
  | continued (loops : Nat)
  | returned (status : Nat)
  | killed (signal : Nat)
  | exhausted

abbrev Run := EStateM Interruption Process

/-- How a shell runs what is nested in its commands. A command that is tested may fail without ending a
shell that ends at the first failure. Running a text answers whether there was a command in it. -/
structure Engine where
  run : (tested : Bool) → Command → Run Unit
  runText : (tested : Bool) → String → Run Bool

namespace Run

def setStatus (status : Nat) : Run Unit := modify fun p => { p with status := status }

def setLine (line : Nat) : Run Unit := modify fun p => { p with line := line }

/-! ## Apart -/

/-- Runs the action for the end of the shell, which is then none any more. -/
def runExitAction (e : Engine) : Run Unit := do
  let p ← get
  match p.traps.lookup "EXIT" with
  | none => return ()
  | some text =>
    set { p with traps := p.traps.filter (·.1 != "EXIT"), heldStatus := some p.status, builtin := none }
    discard (e.runText false text)

/-- Runs something in a copy of the shell, of which only what it does to the world stays. Answers its
status. -/
def apart (e : Engine) (action : Run Unit) : Run Nat := fun p =>
  let finish (q : Process) (status : Nat) : EStateM.Result Interruption Process Nat :=
    let files := { q.world.files with current := p.world.files.current }
    .ok status { p with world := { q.world with files := files } }
  let conclude (q : Process) (status : Nat) : EStateM.Result Interruption Process Nat :=
    match runExitAction e { q with status := status } with
    | .ok _ r => finish r status
    | .error (.exited status) r | .error (.failed status) r => finish r status
    | .error (.killed signal) r => .error (.killed signal) r
    | .error .exhausted r => .error .exhausted r
    | .error _ r => finish r status
  match action { p with loops := 0, traps := p.traps.filter (·.2.isEmpty) } with
  | .ok _ q => conclude q q.status
  | .error (.exited status) q | .error (.failed status) q | .error (.returned status) q => conclude q status
  | .error (.broken _) q | .error (.continued _) q => conclude q 0
  | .error (.killed signal) q => .error (.killed signal) q
  | .error .exhausted q => .error .exhausted q

/-! ## Descriptors -/

/-- Writes to a descriptor. Answers whether it could be. -/
def write (descriptor : Nat) (text : String) : Run (Except WriteFault Unit) := do
  let p ← get
  if text.isEmpty then return .ok ()
  else
    match p.descriptors.lookup descriptor with
    | none => return .error .badDescriptor
    | some index =>
      match p.world.write index (Text.Bytes.toArray text) with
      | .error e => return .error e
      | .ok world =>
        set { p with world := world }
        return .ok ()

/-- Writes to a descriptor if it can be. -/
def send (descriptor : Nat) (text : String) : Run Unit := do
  let _ ← write descriptor text

/-- What is left to read from the input. -/
def input : Run String := do
  let p ← get
  match p.descriptors.lookup 0 with
  | none => return ""
  | some index => return Text.Bytes.ofArray (p.world.rest index)

/-- Passes characters of the input. -/
def consume (n : Nat) : Run Unit :=
  modify fun p =>
    match p.descriptors.lookup 0 with
    | none => p
    | some index => { p with world := p.world.advance index n }

def setDescriptor (descriptor : Nat) (index : Option Nat) : Run Unit :=
  modify fun p =>
    let others := p.descriptors.filter (·.1 != descriptor)
    { p with descriptors := (index.toList.map fun i => (descriptor, i)) ++ others }

/-- What an action writes to a descriptor. -/
def capture {α : Type} (descriptor : Nat) (action : Run α) : Run (α × String) := do
  let p ← get
  let (index, world) := p.world.addPipe .empty
  set { p with world := world }
  setDescriptor descriptor (some index)
  let restore : Run Unit := modify fun q => { q with descriptors := p.descriptors }
  let a ← tryCatch action fun e => do
    restore
    throw e
  restore
  let written := (← get).world.rest index
  return (a, Text.Bytes.ofArray written)

/-- Goes on with the descriptors there are now once the action is over. -/
def keepingDescriptors {α : Type} (action : Run α) : Run α := do
  let before := (← get).descriptors
  let restore : Run Unit := modify fun p => { p with descriptors := before }
  let a ← tryCatch action fun e => do
    restore
    throw e
  restore
  return a

/-! ## Complaints -/

/-- Says what is wrong, with the name of the script and the line. -/
def complain (text : String) : Run Unit := do
  let p ← get
  let who := match p.builtin with
    | none => ""
    | some name => name ++ ": "
  send 2 (p.name ++ ": " ++ toString p.line ++ ": " ++ who ++ text ++ "\n")

/-- An error of the shell itself. -/
def fail {α : Type} (text : String) : Run α := do
  complain text
  throw (.failed 2)

/-! ## Variables -/

def entry? (name : String) : Run (Option Variable) := return (← get).bindings.lookup name

def value? (name : String) : Run (Option String) := return (← entry? name).bind (·.value)

def valueD (name standard : String) : Run String := return (← value? name).getD standard

def setVariable (name : String) (v : Variable) : Run Unit :=
  modify fun p => { p with bindings := (name, v) :: p.bindings.filter (·.1 != name) }

def hasFlag (flag : Char) : Run Bool := return (← get).flags.contains flag

/-- Gives a variable a value. -/
def assign (name value : String) : Run Unit := do
  let exportsAll ← hasFlag 'a'
  match ← entry? name with
  | some v =>
    if v.fixed then fail (name ++ ": is read only")
    else setVariable name { v with value := some value, exported := v.exported || exportsAll }
  | none => setVariable name ⟨some value, exportsAll, false⟩
  if name = "OPTIND" then modify fun p => { p with optionOffset := 0 }

def unassign (name : String) : Run Unit := do
  match ← entry? name with
  | some v =>
    if v.fixed then fail (name ++ ": is read only")
    else modify fun p => { p with bindings := p.bindings.filter (·.1 != name) }
  | none => return ()

/-- The variables that are passed on to programs. -/
def environment : Run Environment := do
  let exported := (← get).bindings.filterMap fun (name, v) =>
    if v.exported then v.value.map fun value => (name, value) else none
  return ⟨exported⟩

/-- The characters that part fields. -/
def separators : Run String := valueD "IFS" " \t\n"

end Run

end Brainfuck.Shell
