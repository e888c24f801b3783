import Brainfuck.Build
import Brainfuck.CommandLine.LogFilter
import Brainfuck.CommandLine.Request
/-!
# Command line

What the program does with its arguments, its input and the files, and what it writes and exits with.
`main` is `CommandLine.run` between the system's input and output.
-/

namespace Brainfuck.CommandLine

/-! ## Texts -/

def programName : String := "bfcc"

def versionText : String := programName ++ " 0.1.0\n"

def usageText : String :=
  "USAGE:\n" ++
  "    bfcc [FLAGS] [OPTIONS]"

def helpText : String :=
  versionText ++
  "Compiles Brainfuck programs to native executables\n" ++
  "\n" ++
  "USAGE:\n" ++
  "    bfcc [FLAGS] [OPTIONS]\n" ++
  "\n" ++
  "FLAGS:\n" ++
  "        --emit-source    Writes the generated LLVM IR or C instead of an executable\n" ++
  "    -h, --help           Prints help information\n" ++
  "        --run            Interprets the program instead of compiling it\n" ++
  "    -v                   Sets the level of verbosity. Repeat to increase.\n" ++
  "    -V, --version        Prints version information\n" ++
  "\n" ++
  "OPTIONS:\n" ++
  "        --cc <DRIVER>          Sets the compiler driver used for linking [default: $BFCC_CC, else clang for llvm and $CC\n" ++
  "                               or cc for c]\n" ++
  "        --code <TEXT>          Uses the given text as the program\n" ++
  "        --file <PATH>          Reads the program from the given file\n" ++
  "    -O, --opt-level <LEVEL>    Sets the optimization level passed to the driver, from 0 to 3 [default: 2]\n" ++
  "        --out <PATH>           Sets the path of the produced file\n" ++
  "        --tape <CELLS>         Sets the number of cells of the tape [default: 30000]\n" ++
  "        --target <target>      Sets the kind of code to generate [default: llvm] [possible values: llvm, c]\n"

/-! ## Requests -/

/-- What a request finds when it is carried out. -/
structure Context where
  environment : Environment
  input : List UInt8
  files : FileSystem
  toolchain : Toolchain

/-- How a request came out. -/
structure Execution where
  logged : Logged Unit
  output : Array UInt8
  files : FileSystem

def Execution.silent (answer : Logged Unit × FileSystem) : Execution :=
  ⟨answer.1, #[], answer.2⟩

/-- The text of the program. -/
def readOrigin (files : FileSystem) : Origin → Logged String
  | .code text => .pure text
  | .file path =>
    let events := #[Event.openingSource path]
    match systemAnswer path (files.readFile path) with
    | .error e => ⟨.error (.io e), events⟩
    | .ok content =>
      match String.fromUTF8? content with
      | none => ⟨.error (.io .invalidUtf8), events⟩
      | some text => ⟨.ok text, events⟩

/-- What is left of the input once the text of the program has been read. -/
def Context.inputAfter (c : Context) : Origin → List UInt8
  | .code _ => c.input
  | .file path =>
    match c.files.find path with
    | .ok (_, .device (.input _)) => []
    | _ => c.input

/-- Runs the program of a text on the input. What it wrote before a failure stays written. -/
def interpret (fuel : Nat) (options : Options) (c : Context) (text : String) : Option Execution :=
  match readSource text with
  | ⟨.error e, events⟩ => some ⟨⟨.error e, events⟩, #[], c.files⟩
  | ⟨.ok source, events⟩ =>
    let program := source.instructions
    let events := events.push (.runningProgram program.length)
    let interpreter := Interpreter.create options.tapeLength (some (.ofBytes c.input)) (some .unbounded)
    match interpreter.run program fuel with
    | none => none
    | some (result, interpreter) =>
      some ⟨⟨result, events⟩, (interpreter.output.map (·.bytes)).getD #[], c.files⟩

def perform (fuel : Nat) (action : Action) (options : Options) (c : Context) (text : String) :
    Option Execution :=
  match action with
  | .executable path =>
    some (.silent (options.build c.toolchain text path c.files))
  | .emitSource path =>
    some (.silent ((options.codeOf text).thenFiles (fun code => code.write path) c.files))
  | .run => interpret fuel options c text

/-- Carries out a request. Only an interpreted program can use up the fuel. -/
def execute (fuel : Nat) (request : Request) (c : Context) : Option Execution :=
  match readOrigin c.files request.origin with
  | ⟨.error e, events⟩ => some ⟨⟨.error e, events⟩, #[], c.files⟩
  | ⟨.ok text, events⟩ =>
    let c := { c with input := c.inputAfter request.origin }
    (perform fuel request.action request.options c text).map fun x =>
      { x with logged := ⟨x.logged.result, events ++ x.logged.events⟩ }

/-! ## Processes -/

/-- What is written to the error stream: texts, each ended by a line break. The wording about malformed
arguments is left open. -/
inductive Diagnostics where
  | texts (ts : List String)
  | malformedArguments
deriving DecidableEq

/-- What a process leaves behind. -/
structure Exit where
  code : Nat
  output : Array UInt8
  diagnostics : Diagnostics
  files : FileSystem

def exitInvalidUsage : Nat := 2

def exitFailure : Nat := 1

/-- The filter asked for by the environment, or else by the arguments, and complaints about it. -/
def logFilter (env : Environment) (verbosity : Nat) : LogFilter × List LogComplaint :=
  match env.value? "BFCC_LOG" with
  | none => (.ofVerbosity verbosity, [])
  | some text => LogFilter.ofText text

/-- What is shown: the complaints, and the reports that the filter lets through. -/
def shown (filter : LogFilter × List LogComplaint) (events : List Event) : List String :=
  filter.2.map (·.message) ++ (events.filter filter.1.allows).map eventText

/-- Runs the program with arguments. -/
def run (fuel : Nat) (c : Context) (arguments : List String) : Option Exit :=
  match parseArguments arguments with
  | .help => some ⟨0, helpText.toUTF8.data, .texts [], c.files⟩
  | .version => some ⟨0, versionText.toUTF8.data, .texts [], c.files⟩
  | .malformed => some ⟨exitFailure, #[], .malformedArguments, c.files⟩
  | .arguments a =>
    let filter := logFilter c.environment a.verbosity
    match a.request c.environment with
    | .error e =>
      some ⟨exitInvalidUsage, #[], .texts (shown filter [.failed e.message] ++ [usageText]), c.files⟩
    | .ok request =>
      (execute fuel request c).map fun x =>
        match x.logged.result with
        | .ok () => ⟨0, x.output, .texts (shown filter x.logged.events.toList), x.files⟩
        | .error e =>
          ⟨exitFailure, x.output,
            .texts (shown filter (x.logged.events.push (.failed e.message)).toList), x.files⟩

end Brainfuck.CommandLine
