import Brainfuck.Error
/-!
# Command line arguments

Which options and flags a command line gives. An argument that is unknown is malformed at once, and a
request for help or for the version is answered at once; what else can be wrong, a missing value or
something given twice, shows only when all arguments have been read.
-/

namespace Brainfuck.CommandLine

/-- The options that take a value. -/
inductive OptionName where
  | file
  | code
  | out
  | tape
  | target
  | driver
  | level
deriving DecidableEq

/-- The flags. Only `verbose` may be repeated. -/
inductive Flag where
  | emitSource
  | run
  | verbose
  | help
  | version
deriving DecidableEq

inductive Name where
  | option (o : OptionName)
  | flag (f : Flag)
deriving DecidableEq

/-- What the arguments give, once they are known to be well formed. -/
structure Arguments where
  file : Option String
  code : Option String
  out : Option String
  tape : Option String
  target : Option String
  driver : Option String
  level : Option String
  emitSource : Bool
  run : Bool
  verbosity : Nat
deriving DecidableEq

inductive Parsed where
  | arguments (a : Arguments)
  | help
  | version
  | malformed
deriving DecidableEq

/-! ## Names -/

def longName? : List Char → Option Name := fun name =>
  match String.ofList name with
  | "file" => some (.option .file)
  | "code" => some (.option .code)
  | "out" => some (.option .out)
  | "tape" => some (.option .tape)
  | "target" => some (.option .target)
  | "cc" => some (.option .driver)
  | "opt-level" => some (.option .level)
  | "emit-source" => some (.flag .emitSource)
  | "run" => some (.flag .run)
  | "help" => some (.flag .help)
  | "version" => some (.flag .version)
  | _ => none

def shortName? : Char → Option Name
  | 'O' => some (.option .level)
  | 'v' => some (.flag .verbose)
  | 'h' => some (.flag .help)
  | 'V' => some (.flag .version)
  | _ => none

/-! ## Reading -/

/-- What has been read: the values given to options and the flags given, newest first. `awaiting` is an
option whose value may be the next argument, and `onlyOperands` says that a lone `--` has been read. -/
structure Reading where
  values : List (OptionName × String)
  flags : List Flag
  awaiting : Option OptionName
  missingValue : Bool
  onlyOperands : Bool

inductive Progress where
  | reading (r : Reading)
  | answered (p : Parsed)

namespace Reading

def start : Reading := ⟨[], [], none, false, false⟩

/-- An option whose value did not follow has none. -/
def abandon (r : Reading) : Reading :=
  match r.awaiting with
  | none => r
  | some _ => { r with awaiting := none, missingValue := true }

def give (r : Reading) (o : OptionName) (value : String) : Reading :=
  { r with values := (o, value) :: r.values, awaiting := none }

/-- Equals signs in front of a value are no part of it. -/
def withoutEquals (value : List Char) : String :=
  String.ofList (value.dropWhile (· = '='))

def addFlag (r : Reading) : Flag → Progress
  | .help => .answered .help
  | .version => .answered .version
  | f => .reading { r with flags := f :: r.flags }

/-- Reads an argument without its leading dashes as a long name, with a value behind an equals sign. -/
def long (r : Reading) (text : List Char) : Progress :=
  let value := text.dropWhile (· ≠ '=')
  match longName? (text.takeWhile (· ≠ '=')) with
  | none => .answered .malformed
  | some (.flag f) => r.addFlag f
  | some (.option o) =>
    if value.isEmpty then .reading { r with awaiting := some o }
    else .reading (r.give o (withoutEquals value))

/-- Reads short names up to an option, whose value is the rest. -/
def short (r : Reading) : List Char → Progress
  | [] => .reading r
  | c :: rest =>
    match shortName? c with
    | none => .answered .malformed
    | some (.flag f) =>
      match r.addFlag f with
      | .reading r => short r rest
      | answer => answer
    | some (.option o) =>
      if rest.isEmpty then .reading { r with awaiting := some o }
      else .reading (r.give o (withoutEquals rest))

/-- Reads one argument. An argument that starts with a dash is no value, unless it is the dash alone. -/
def argument (r : Reading) (text : String) : Progress :=
  let chars := text.toList
  if r.onlyOperands then .answered .malformed
  else
    match chars with
    | ['-', '-'] => .reading { r.abandon with onlyOperands := true }
    | '-' :: '-' :: _ => r.abandon.long (chars.dropWhile (· = '-'))
    | '-' :: c :: rest => r.abandon.short (c :: rest)
    | _ =>
      match r.awaiting with
      | some o => .reading (r.give o text)
      | none => .answered .malformed

def value? (r : Reading) (o : OptionName) : Option String := r.values.lookup o

/-- Is everything given at most once that may not be repeated? -/
def isUnique (r : Reading) : Bool :=
  (r.values.map (·.1)).Nodup && (r.flags.filter (· ≠ .verbose)).Nodup

/-- The targets that can be asked for. -/
def targetNames : List String := ["llvm", "c"]

def finish (r : Reading) : Parsed :=
  let targetKnown := match r.value? .target with
    | none => true
    | some name => targetNames.contains name
  if r.abandon.missingValue || !r.isUnique || !targetKnown then
    .malformed
  else
    .arguments
      { file := r.value? .file
        code := r.value? .code
        out := r.value? .out
        tape := r.value? .tape
        target := r.value? .target
        driver := r.value? .driver
        level := r.value? .level
        emitSource := r.flags.contains .emitSource
        run := r.flags.contains .run
        verbosity := r.flags.count .verbose }

end Reading

/-- Reads arguments from left to right. -/
def parseFrom : List String → Reading → Parsed
  | [], r => r.finish
  | text :: rest, r =>
    match r.argument text with
    | .reading r => parseFrom rest r
    | .answered answer => answer

def parseArguments (arguments : List String) : Parsed := parseFrom arguments .start

end Brainfuck.CommandLine
