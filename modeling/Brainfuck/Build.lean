import Brainfuck.Code
import Brainfuck.Options
import Brainfuck.Text.Blank
import Brainfuck.Text.Utf8
import Brainfuck.Toolchain
/-!
# Builds

Code as files. `Code.write` writes the text itself. `Code.link` has a compiler driver make an executable of
it: the driver reads a temporary file and writes below a staging directory, which stands where the
executable goes; only when the driver has succeeded does the executable get its path. Afterwards the
temporary file and the staging directory are gone, however it came out.

Tasks that run a driver do so in a monad of their launcher: a program runs drivers as they come, and other monads
can watch the runs.
-/

namespace Brainfuck

/-- What a task on files answers: its result with its reports, and the files after it. -/
abbrev FileTaskIn (m : Type → Type) (α : Type) := FileSystem → m (Logged α × FileSystem)

abbrev FileTask := FileTaskIn Id

/-- Goes on with the value of a computation that touches no files. -/
def Logged.thenFiles {m : Type → Type} [Monad m] {α β : Type} (x : Logged α) (task : α → FileTaskIn m β) :
    FileTaskIn m β := fun files =>
  match x with
  | ⟨.error e, events⟩ => return (⟨.error e, events⟩, files)
  | ⟨.ok a, events⟩ => do
    let (y, files) ← task a files
    return (⟨y.result, events ++ y.events⟩, files)

/-- The answer of the system about a path. A path that holds a NUL never reaches it. -/
def systemAnswer {α : Type} (path : String) (answer : Except SystemError α) : Except IoError α :=
  if path.toList.contains '\x00' then .error .nulInPath else answer.mapError .system

/-! ## Scratch files -/

/-- Where a build keeps its files. Nothing else has these two names. -/
structure Scratch where
  temporary : String
  staging : String

namespace Scratch

/-- A path from the root. -/
def absolute (current : Location) (path : String) : String :=
  if path.startsWith "/" then path else "/" ++ "/".intercalate (current ++ [path])

/-- The path of a name in a directory. -/
def inDirectory (directory name : String) : String :=
  if directory.isEmpty || directory.endsWith '/' then directory ++ name else directory ++ "/" ++ name

/-- The scratch files for an executable at `path`. The temporary file has the extension of its target; the
staging directory is next to the executable. -/
def forPath (toolchain : Toolchain) (target : Target) (path : String) (current : Location) : Scratch :=
  let name := "bfcc-" ++ toolchain.tag
  { temporary :=
      absolute current (inDirectory toolchain.temporaryDirectory (name ++ "." ++ target.fileExtension))
    staging := absolute current (inDirectory (Path.ofText path).parentText ("." ++ name)) }

/-- Where the driver leaves the executable. -/
def executable (s : Scratch) : String := s.staging ++ "/a.out"

/-- The arguments of the driver. -/
def arguments (s : Scratch) (optimizationLevel : Nat) : List String :=
  ["-O" ++ toString (min optimizationLevel maxOptimizationLevel), s.temporary, "-o", s.executable]

/-- Writes the text of the program and makes the staging directory. Without a staging directory, what has been written
is taken away again. -/
def prepare (s : Scratch) (text : String) (files : FileSystem) : Except IoError Unit × FileSystem :=
  match files.writeFile s.temporary text.toUTF8 with
  | .error e => (.error (.atPath (.system e) s.temporary), files)
  | .ok wrote =>
    match systemAnswer s.staging (wrote.createDirectory s.staging) with
    | .error e => (.error (.atPath e s.staging), wrote.eraseAt s.temporary)
    | .ok prepared => (.ok (), prepared)

/-- Takes the scratch files away. -/
def clear (s : Scratch) (files : FileSystem) : FileSystem :=
  (files.eraseAt s.staging).eraseAt s.temporary

end Scratch

namespace Code

/-! ## Source files -/

def write (code : Code) (path : String) : FileTask Unit := fun files =>
  let events := #[Event.writingSource code.target path]
  match systemAnswer path (files.writeFile path code.text.toUTF8) with
  | .ok files => (⟨.ok (), events⟩, files)
  | .error e => (⟨.error (.io e), events⟩, files)

/-! ## Executables -/

/-- Does a text contain another one? -/
def occursIn (part : List Char) : List Char → Bool
  | [] => part.isEmpty
  | c :: rest => part.isPrefixOf (c :: rest) || occursIn part rest

/-- Can a driver link code of a target? Only drivers with `clang` in their name know LLVM code. -/
def canLink (driver : String) : Target → Bool
  | .c => true
  | .llvm =>
    match (Path.ofText driver).fileName? with
    | none => false
    | some name => occursIn "clang".toList name.toList

/-- Why a launched driver made nothing, if so. -/
def launchFailure? : Launch → Option ToolchainFailure
  | .notStarted e => some (.notStarted e)
  | .ended false errorOutput =>
    some (.reported (String.ofList (Text.trim (Text.Utf8.decode errorOutput))))
  | .ended true _ => none

/-- What is left to do when the driver has been run: the executable gets its path, and the scratch files go. -/
def finish (scratch : Scratch) (path driver : String) (arguments : List String) :
    Launch × FileSystem → Logged Unit × FileSystem
  | (launched, after) =>
    let events := #[Event.runningDriver driver arguments]
    match launchFailure? launched with
    | some failure => (⟨.error (.toolchain driver failure), events⟩, scratch.clear after)
    | none =>
      match systemAnswer path (after.rename scratch.executable path) with
      | .error e => (⟨.error (.io e), events⟩, scratch.clear after)
      | .ok renamed => (⟨.ok (), events.push (.executableWritten path)⟩, scratch.clear renamed)

/-- Has a driver link the code and gives the executable its path. -/
def linkIn {m : Type → Type} [Monad m] (launch : LauncherIn m) (toolchain : Toolchain) (code : Code)
    (path driver : String) (optimizationLevel : Nat) : FileTaskIn m Unit := fun files =>
  if !canLink driver code.target then
    return (.fail (.toolchain driver (.needsClang code.target)), files)
  else
    let scratch := Scratch.forPath toolchain code.target path files.current
    match scratch.prepare code.text files with
    | (.error e, cleared) => return (.fail (.io e), cleared)
    | (.ok (), prepared) => do
      let arguments := scratch.arguments optimizationLevel
      return finish scratch path driver arguments (← launch driver arguments prepared)

def link (toolchain : Toolchain) (code : Code) (path driver : String) (optimizationLevel : Nat) : FileTask Unit :=
  linkIn toolchain.launch toolchain code path driver optimizationLevel

end Code

/-! ## From texts -/

namespace Options

/-- The code of a text. -/
def codeOf (options : Options) (text : String) : Logged Code :=
  Code.ofText options.target options.tapeLength text

/-- Makes an executable of a text. -/
def buildIn {m : Type → Type} [Monad m] (launch : LauncherIn m) (toolchain : Toolchain) (options : Options)
    (text path : String) : FileTaskIn m Unit :=
  (options.codeOf text).thenFiles fun code =>
    code.linkIn launch toolchain path options.driver options.optimizationLevel

def build (toolchain : Toolchain) (options : Options) (text path : String) : FileTask Unit :=
  options.buildIn toolchain.launch toolchain text path

/-- Makes an executable of a text where nothing but the tape length is chosen. -/
def buildWithTape (env : Environment) (toolchain : Toolchain) (tapeLength : Nat) (text path : String) :
    FileTask Unit :=
  (((Choices.initial env).setTapeLength tapeLength).options env).build toolchain text path

end Options

end Brainfuck
