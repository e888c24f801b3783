import Brainfuck.Shell.Builtin.Control
import Brainfuck.Shell.Builtin.Variables
import Brainfuck.Shell.Program
import Brainfuck.Shell.Redirection
import Brainfuck.Shell.Scanner.Command
/-!
# Executing programs

A program runs as a process of its own: it gets words, an environment and the descriptors of the shell, and
what it does to the files and the open descriptors stays.
-/

namespace Brainfuck.Shell

/-! ## Texts -/

/-- Runs the lines of a text, one after the other. A shell that is verbose shows each line first. Answers
whether there was a command. -/
def runLines (e : Engine) (tested shows : Bool) : Nat → Scanner → Run Bool
  | 0, _ => return false
  | n + 1, s => do
    let p ← get
    match { s with documents := p.documents, aliases := p.aliases }.next with
    | .ok none _ => return false
    | .ok (some c) after =>
      set { p with documents := after.documents, reached := after.line }
      if shows && p.flags.contains 'v' then
        Run.send 2 (String.ofList (s.rest.take (s.rest.length - after.rest.length)))
      e.run tested c
      let more ← runLines e tested shows n after
      match c with
      | .nothing => return more
      | _ => return true
    | .error message after =>
      set { p with documents := after.documents, line := after.line }
      Run.fail ("Syntax error: " ++ message)

def runWhole (e : Engine) (tested shows : Bool) (text : String) : Run Bool :=
  runLines e tested shows (text.length + 1) (Scanner.start text #[])

/-! ## Processes -/

def newNumber : Run Nat :=
  modifyGet fun p =>
    let n := p.world.started + 1
    (n, { p with world := { p.world with started := n } })

/-- A new shell. It knows the variables of the environment and those that every shell has. -/
def Process.start (world : World) (descriptors : List (Nat × Nat)) (ignored : List String) (env : Environment)
    (number parent : Nat) (name : String) (arguments : List String) (flags : List Char) : Process :=
  let path := Text.Bytes.ofUnicode ("/" ++ "/".intercalate world.files.current)
  let own : List (String × Variable) :=
    [("IFS", ⟨some " \t\n", false, false⟩), ("OPTIND", ⟨some "1", false, false⟩),
      ("PPID", ⟨some (toString parent), false, false⟩), ("PS1", ⟨some "# ", false, false⟩),
      ("PS2", ⟨some "> ", false, false⟩), ("PS4", ⟨some "+ ", false, false⟩), ("PWD", ⟨some path, true, false⟩)]
  let given := (env.entries.filter fun entry => isName entry.1 && (own.lookup entry.1).isNone).map
    fun (name, value) => (name, (⟨some value, true, false⟩ : Variable))
  let standard := "/usr/local/sbin:/usr/local/bin:/usr/sbin:/usr/bin:/sbin:/bin"
  let search := if (given.lookup "PATH").isSome then [] else [("PATH", ⟨some standard, false, false⟩)]
  { world, number, parent, name, arguments, bindings := own ++ search ++ given, functions := [], flags,
    traps := [], ignored, descriptors, documents := #[], status := 0, line := 0, reached := 1, loops := 0,
    calls := 0, frames := [], builtin := none, tested := false, children := [], located := [], aliases := [], pending := [],
    heldStatus := none, creationMask := 18, substitutionStatus := 0, optionOffset := 0 }

/-- Runs a process of its own. -/
def runProcess (e : Engine) (start : Process → Process) (action : Run Unit) : Run Ending := fun p =>
  let back (q : Process) : Process :=
    { p with world := { q.world with files := { q.world.files with current := p.world.files.current } } }
  match Run.apart e action (start p) with
  | .ok status q => .ok (.exited status) (back q)
  | .error (.killed signal) q => .ok (.killed signal) (back q)
  | .error i q => .error i (back q)

/-- Runs a text as a shell of its own. -/
def runShell (e : Engine) (env : Environment) (name text : String) (arguments : List String)
    (flags : List Char) : Run Ending := do
  let number ← newNumber
  runProcess e
    (fun p =>
      let ignored := p.ignored ++ (p.traps.filter (·.2.isEmpty)).map (·.1)
      .start p.world p.descriptors ignored env number p.number name arguments flags)
    (discard (runWhole e false true text))

/-! ## Utilities -/

/-- The paths of the standard descriptors. -/
def standardPaths : List (Location × Nat) :=
  [(["dev", "stdin"], 0), (["dev", "stdout"], 1), (["dev", "stderr"], 2)]
  ++ [0, 1, 2].flatMap fun n =>
    [(["dev", "fd", toString n], n), (["proc", "self", "fd", toString n], n)]

/-- Writes for a utility, which complains where it cannot. Answers whether all could be written. -/
def writeFor (name : String) (descriptor : Nat) (text : String) : Run Bool := do
  match ← Run.write descriptor text with
  | .ok _ => return true
  | .error fault =>
    let reason := match fault with
      | .badDescriptor => "Bad file descriptor"
      | .refused e => e.description
    if descriptor = 1 then Run.send 2 (name ++ ": write error: " ++ reason ++ "\n")
    return false

/-- Calls a utility. It finds its input and its outputs under their paths as well. -/
def runUtility (u : Utility) (name : String) (arguments : List String) (env : Environment) : Run Ending := do
  let p ← get
  let files := p.world.files
  let input ← Run.input
  let device (n : Nat) : Node :=
    .device (if n = 0 then .input (Text.Bytes.toArray input) else .sink .empty)
  let planted := standardPaths.foldl (fun files (loc, n) => files.plant loc (device n)) files
  let isPiped := match (p.descriptors.lookup 0).bind (p.world.opened[·]?) with
    | some ⟨.file _, _, _⟩ => false
    | _ => true
  let r := u ⟨name, arguments, env, planted, input, isPiped⟩
  let restore (after : FileSystem) (path : Location × Nat) : FileSystem :=
    match files.node? path.1 with
    | some node => after.insert path.1 node
    | none => after.erase path.1
  Run.consume r.consumed
  modify fun p => { p with world := { p.world with files := standardPaths.foldl restore r.files } }
  let sunk := standardPaths.filterMap fun (loc, n) =>
    match r.files.node? loc with
    | some (.device (.sink content)) => some (n, Text.Bytes.ofArray content)
    | _ => none
  let done ← (r.writes ++ sunk).mapM fun (descriptor, text) => writeFor name descriptor text
  return .exited (if done.all id then r.status else max 1 r.status)

/-! ## The shell as a program -/

/-- How a shell is called: its settings, a text to run, whether it reads its input, and the other words. -/
structure Invocation where
  flags : List Char
  takesText : Bool
  readsInput : Bool
  words : List String

/-- Reads the arguments of a shell. Fails with the option that there is not. -/
def readInvocation : List String → Except String Invocation
  | [] => .ok ⟨[], false, false, []⟩
  | "--" :: rest | "-" :: rest => .ok ⟨[], false, false, rest⟩
  | word :: rest =>
    match word.toList with
    | sign :: letter :: letters =>
      if sign == '-' || sign == '+' then
        let letters := letter :: letters
        let name? := if letters.contains 'o' then rest.head? else none
        let named := name?.bind Builtin.settingNamed?
        let isKnown (c : Char) : Bool := c == 'c' || c == 'l' || c == 'o' || (Builtin.settings.lookup c).isSome
        match letters.find? fun c => !isKnown c with
        | some c => .error (String.ofList [sign, c])
        | none =>
          if name?.isSome && named.isNone then
            .error (String.singleton sign ++ "o " ++ name?.getD "")
          else
            let further : Except String Invocation :=
              match name?, rest with
              | some _, _ :: rest => readInvocation rest
              | _, rest => readInvocation rest
            further.map fun i =>
              { i with
                flags :=
                  (if sign == '-' then letters.filter (fun c => !"clos".contains c) ++ named.toList else [])
                    ++ i.flags
                takesText := i.takesText || letters.contains 'c'
                readsInput := i.readsInput || letters.contains 's' }
      else .ok ⟨[], false, false, word :: rest⟩
    | _ => .ok ⟨[], false, false, word :: rest⟩

def runShellProgram (e : Engine) (name : String) (arguments : List String) (env : Environment) :
    Run Ending := do
  let refuse (text : String) : Run Ending := do
    Run.send 2 (name ++ ": 0: " ++ text ++ "\n")
    return .exited 2
  match readInvocation arguments with
  | .error option => refuse ("Illegal option " ++ option)
  | .ok i =>
    let run (name text : String) (arguments : List String) : Run Ending :=
      runShell e env name text arguments i.flags
    if i.takesText then
      match i.words with
      | [] => refuse "-c requires an argument"
      | [text] => run name text []
      | text :: name :: rest => run name text rest
    else
      match i.readsInput, i.words with
      | false, path :: rest =>
        match (← get).world.files.readFile (Text.Bytes.toUnicode path) with
        | .ok content => run path (Text.Bytes.ofArray content) rest
        | .error e => refuse ("cannot open " ++ path ++ ": " ++ openingRefusal .read e)
      | _, words =>
        let text ← Run.input
        Run.consume text.length
        run name text words

/-! ## Programs that run programs -/

/-- Runs a command by its words. -/
abbrev Runner := (words : List String) → Environment → Run (Except SystemError Ending)

/-- Runs a command for a program that passes its words on. -/
def passOn (run : Runner) (name : String) (words : List String) (env : Environment) : Run Ending := do
  match ← run words env with
  | .ok ending => return ending
  | .error e =>
    let command := words.headD ""
    let shown := if name = "xargs" then command else Utility.quoted command
    let verb := if name.endsWith "env" || name = "xargs" then "" else "failed to run command "
    Run.send 2 (name ++ ": " ++ verb ++ shown ++ ": " ++ e.description ++ "\n")
    return .exited (if e = .noEntry then 127 else 126)

/-- Reads what an environment is changed by. Answers the words behind it. -/
def readChanges (env : Environment) : List String → Environment × List String
  | [] => (env, [])
  | "-i" :: rest | "-" :: rest | "--ignore-environment" :: rest => readChanges ⟨[]⟩ rest
  | "-u" :: name :: rest => readChanges ⟨env.entries.filter (·.1 != name)⟩ rest
  | "--" :: rest => readChanges env rest
  | word :: rest =>
    match Builtin.splitAssignment word with
    | (name, some value) => readChanges ⟨env.entries.filter (·.1 != name) ++ [(name, value)]⟩ rest
    | _ => (env, word :: rest)

def runEnvironment (run : Runner) (name : String) (arguments : List String) (env : Environment) :
    Run Ending := do
  match readChanges env arguments with
  | (env, []) => runUtility Utility.showEnvironment name [] env
  | (env, words) =>
    if (words.headD "").startsWith "-" then
      Run.send 2 (name ++ ": invalid option -- '" ++ ((words.headD "").drop 1).toString
        ++ "'\nTry '" ++ name ++ " --help' for more information.\n")
      return .exited 125
    else passOn run name words env

/-- The words of an input, which quotes and backslashes may protect. -/
def inputWords : List Char → Option Char → List Char → Bool → List String
  | [], _, word, started => if started then [String.ofList word.reverse] else []
  | c :: rest, some mark, word, _ =>
    if c == mark then inputWords rest none word true else inputWords rest (some mark) (c :: word) true
  | '\\' :: c :: rest, none, word, _ => inputWords rest none (c :: word) true
  | c :: rest, none, word, started =>
    if c == '"' || c == '\x27' then inputWords rest (some c) word true
    else if c == ' ' || c == '\t' || c == '\n' then
      if started then String.ofList word.reverse :: inputWords rest none [] false
      else inputWords rest none [] false
    else inputWords rest none (c :: word) true

/-- Parts a list into pieces of a size. -/
def pieces {α : Type} (size : Nat) : Nat → List α → List (List α)
  | 0, _ | _, [] => []
  | n + 1, all => all.take size :: pieces size n (all.drop size)

/-- Runs a command for the words, or the lines, of the input. -/
def runForArguments (run : Runner) (name : String) (arguments : List String) (env : Environment) :
    Run Ending := do
  let kinds : List Utility.OptionKind :=
    [⟨'n', "max-args", true⟩, ⟨'I', "replace", true⟩, ⟨'r', "no-run-if-empty", false⟩, ⟨'0', "null", false⟩,
      ⟨'d', "delimiter", true⟩, ⟨'L', "max-lines", true⟩, ⟨'t', "verbose", false⟩, ⟨'P', "max-procs", true⟩]
  match Utility.readOptions kinds true arguments with
  | .error text =>
    Run.send 2 (name ++ ": " ++ text ++ "\nTry '" ++ name ++ " --help' for more information.\n")
    return .exited 1
  | .ok p =>
    let text ← Run.input
    Run.consume text.length
    let parted (mark : String) : List String :=
      let parts := text.splitOn mark
      if parts.getLast? = some "" then parts.dropLast else parts
    let words :=
      if p.has '0' then parted "\x00"
      else
        match p.value? 'd', p.value? 'I' with
        | some mark, _ => parted (Format.unescaped mark).1
        | none, some _ => (parted "\n").filter fun line => !line.isEmpty
        | none, none =>
          if p.has 'L' then (parted "\n").filter fun line => !line.isEmpty
          else inputWords text.toList none [] false
    let command := if p.operands.isEmpty then ["echo"] else p.operands
    let size := ((p.value? 'n').or (p.value? 'L')).bind String.toNat?
    let calls : List (List String) :=
      match p.value? 'I' with
      | some mark => words.map fun word => command.map fun part => word.intercalate (part.splitOn mark)
      | none =>
        match size, words with
        | _, [] => if p.has 'r' then [] else [command]
        | none, words => [command ++ words]
        | some size, words =>
          (pieces size words.length words).map fun piece =>
            command ++
              if p.has 'L' then piece.flatMap (fun line => inputWords line.toList none [] false) else piece
    calls.foldlM
      (fun ending words => do
        match ending with
        | .exited 126 | .exited 127 => return ending
        | _ =>
          if p.has 't' then Run.send 2 (" ".intercalate words ++ "\n")
          match (← passOn run name words env).status with
          | 0 => return ending
          | 126 => return .exited 126
          | 127 => return .exited 127
          | _ => return .exited 123)
      (.exited 0)

/-- Shows where programs are found. -/
def runSearch (arguments : List String) (env : Environment) : Run Ending := do
  let files := (← get).world.files
  let found := (arguments.filter fun a => !a.startsWith "-").map fun name =>
    match locateCommand files ((env.value? "PATH").getD standardSearch) name with
    | .ok path => if (executableAt files path).toBool then some path else none
    | .error _ => none
  Run.send 1 (String.join (found.filterMap fun path => path.map (· ++ "\n")))
  return .exited (if found.all (·.isSome) && !found.isEmpty then 0 else 1)

/-- Runs a program. -/
def Program.run (e : Engine) (runner : Runner) (p : Program) (name : String) (arguments : List String)
    (env : Environment) : Run Ending :=
  match p with
  | .utility u => runUtility u name arguments env
  | .shell => runShellProgram e name arguments env
  | .environment => runEnvironment runner name arguments env
  | .eachArgument => runForArguments runner name arguments env
  | .search => runSearch arguments env
  | .passingOn options operands => do
    let kinds := options.map fun letter => (⟨letter, "", true⟩ : Utility.OptionKind)
    match Utility.readOptions kinds true arguments with
    | .error text =>
      Run.send 2 (name ++ ": " ++ text ++ "\nTry '" ++ name ++ " --help' for more information.\n")
      return .exited 125
    | .ok parsed =>
      match parsed.operands.drop operands with
      | [] =>
        Run.send 2 (name ++ ": missing operand\nTry '" ++ name ++ " --help' for more information.\n")
        return .exited 125
      | words => passOn runner name words env

/-! ## Execution -/

/-- Runs a file that no program can be found for as a text for the shell. -/
def orAsShellText (e : Engine) (path : String) (words : List String) (env : Environment)
    (run : Run (Except SystemError Ending)) : Run (Except SystemError Ending) := do
  match ← run with
  | .error .badExecutable => return .ok (← runShellProgram e "sh" (path :: words.tail) env)
  | answer => return answer

/-- Runs what a path leads to. The first word is the name that the program is called by. A script runs by the
program that its first line names, and programs may run each other up to the given depth. -/
def execute (e : Engine) : Nat → String → List String → Environment → Run (Except SystemError Ending)
  | 0, _, _, _ => return .error .noEntry
  | n + 1, path, words, env => do
    match executableAt (← get).world.files path with
    | .error e => return .error e
    | .ok (.program p) =>
      let runner : Runner := fun words env => do
        match locateCommand (← get).world.files ((env.value? "PATH").getD standardSearch) (words.headD "") with
        | .error e => return .error e
        | .ok path => orAsShellText e path words env (execute e n path words env)
      return .ok (← p.run e runner (words.headD "") words.tail env)
    | .ok (.script text) =>
      match interpreter? text with
      | none => return .error .badExecutable
      | some (program, argument) => execute e n program (program :: argument.toList ++ path :: words.tail) env

/-- How deeply programs may run each other for one command. -/
def maxNesting : Nat := 64

/-- Runs what a path leads to for a shell. -/
def executeForShell (e : Engine) (path : String) (words : List String) (env : Environment) :
    Run (Except SystemError Ending) :=
  orAsShellText e path words env (execute e maxNesting path words env)

end Brainfuck.Shell
