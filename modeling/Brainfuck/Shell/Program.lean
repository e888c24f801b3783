import Brainfuck.Shell.Builtin.Texts
import Brainfuck.Utility.Edit
import Brainfuck.Utility.Files
import Brainfuck.Utility.Lines
import Brainfuck.Utility.Search
import Brainfuck.Utility.Values
/-!
# Programs

What can be run besides scripts. The programs of a machine stand as executable files in its program
directories, where their contents name them; those that run other programs are listed apart from the utilities.
-/

namespace Brainfuck.Shell

inductive Program where
  | utility (u : Utility)
  | shell
  | environment
  | eachArgument
  | search
  | passingOn (options : List Char) (operands : Nat)

namespace Program

/-- Writes its arguments. Escapes are only replaced where that is asked for. -/
def echo : Utility := Utility.ofAct do
  let arguments ← Utility.Act.arguments
  let isOption (a : String) : Bool :=
    match a.toList with
    | '-' :: c :: letters => (c :: letters).all fun c => c == 'n' || c == 'e' || c == 'E'
    | _ => false
  let flags := (arguments.takeWhile isOption).flatMap (·.toList.drop 1)
  let escapes := (flags.filter (· != 'n')).getLast? = some 'e'
  let text := " ".intercalate (arguments.dropWhile isOption)
  let (text, stops) := if escapes then Format.unescaped text else (text, false)
  Utility.Act.out (text ++ (if stops || flags.contains 'n' then "" else "\n"))

def printf : Utility := Utility.ofAct do
  match ← Utility.Act.arguments with
  | [] => Utility.Act.misused "missing operand" 1
  | format :: rest =>
    let w := Format.write format rest
    w.faults.reverse.forM fun fault =>
      Utility.Act.fail
        (match fault with
          | .expectedNumber text => Utility.quoted text ++ ": expected a numeric value"
          | .outOfRange text => Utility.quoted text ++ ": Numerical result out of range"
          | .trailingText text => Utility.quoted text ++ ": value not completely converted"
          | .invalidDirective directive => directive ++ ": invalid conversion specification"
          | .missingLetter => "%: invalid conversion specification")
        1
    Utility.Act.out w.output

def test : Utility := Utility.ofAct do
  match Condition.evaluate ⟨← Utility.Act.files, fun _ => false⟩ (← Utility.Act.arguments) with
  | .ok holds => Utility.Act.setStatus (if holds then 0 else 1)
  | .error fault => Utility.Act.fail fault.message 2

def bracket : Utility := fun call =>
  if call.arguments.getLast? = some "]" then test { call with arguments := call.arguments.dropLast }
  else Utility.ofAct (Utility.Act.fail "missing ']'" 2) call

def currentDirectory : Utility := Utility.ofAct do
  Utility.Act.out (Utility.pathOf (← Utility.Act.files).current ++ "\n")

def all : List (String × Program) :=
  [("sh", shell), ("dash", shell), ("bash", shell), ("env", environment), ("xargs", eachArgument),
    ("which", search), ("nohup", passingOn [] 0), ("nice", passingOn ['n'] 0),
    ("timeout", passingOn ['s', 'k'] 1), ("stdbuf", passingOn ['i', 'o', 'e'] 0)]
  ++ ([("[", bracket), ("basename", Utility.baseNames), ("cat", Utility.concatenate),
    ("chmod", Utility.changeMode), ("cmp", Utility.compareFiles), ("cp", Utility.copy), ("cut", Utility.cut),
    ("dirname", Utility.directoryNames), ("echo", echo), ("egrep", Utility.searchWith ['E']),
    ("expr", Utility.expression), ("false", Utility.silent 1), ("fgrep", Utility.searchWith ['F']),
    ("grep", Utility.searchWith []), ("head", Utility.head), ("install", Utility.install), ("ln", Utility.link),
    ("ls", Utility.list), ("mkdir", Utility.makeDirectory), ("mktemp", Utility.makeTemporary),
    ("mv", Utility.move), ("nl", Utility.numberLines), ("paste", Utility.paste),
    ("printenv", Utility.showEnvironment), ("printf", printf), ("pwd", currentDirectory), ("readlink", Utility.resolve false),
    ("realpath", Utility.resolve true), ("rev", Utility.reverseCharacters), ("rm", Utility.remove),
    ("rmdir", Utility.removeDirectory), ("sed", Utility.edit), ("seq", Utility.sequence),
    ("sleep", Utility.sleep), ("sort", Utility.sort), ("sync", Utility.silent 0), ("tac", Utility.reverseLines),
    ("tail", Utility.tail), ("tee", Utility.tee), ("test", test), ("touch", Utility.touch),
    ("tr", Utility.translate), ("true", Utility.silent 0), ("uname", Utility.systemName),
    ("uniq", Utility.unique), ("wc", Utility.count)].map fun (name, u) => (name, utility u))

/-- What the file of a program begins with. No text in Unicode does. -/
def imageMark : String := "\x7fELF\xff"

/-- The content of the file of a program. -/
def image (name : String) : ByteArray := Text.Bytes.toArray (imageMark ++ name)

/-- The program that a content stands for. -/
def ofImage? (content : String) : Option Program :=
  (content.dropPrefix? imageMark).bind fun name => all.lookup name.toString

/-- Puts the programs into the program directories where nothing is yet. -/
def installAll (files : FileSystem) : FileSystem :=
  (all.flatMap fun (name, _) => [(["bin", name], name), (["usr", "bin", name], name)]).foldl
    (fun files (loc, name) =>
      if (files.node? loc).isNone then files.plant loc (.file (image name) true) else files)
    files

end Program

/-! ## Finding -/

/-- Where programs are looked for if the environment does not say it. -/
def standardSearch : String := "/bin:/usr/bin"

/-- What a path can be executed as. -/
inductive Executable where
  | program (p : Program)
  | script (text : String)

def executableAt (files : FileSystem) (path : String) : Except SystemError Executable := do
  match ← files.find (Text.Bytes.toUnicode path) with
  | (_, .file content true) =>
    let text := Text.Bytes.ofArray content
    match Program.ofImage? text with
    | some p => return .program p
    | none => return .script text
  | _ => throw .permissionDenied

/-- The path of a command. A name without a slash is looked for in the directories of a search path. -/
def locateCommand (files : FileSystem) (search name : String) : Except SystemError String :=
  if name.contains '/' then .ok name
  else
    (search.splitOn ":").foldr
      (fun directory further =>
        let path := if directory.isEmpty then name else directory ++ "/" ++ name
        match executableAt files path with
        | .ok _ => .ok path
        | .error .noEntry | .error .notDirectory => further
        | .error e =>
          match further with
          | .error .noEntry => .error e
          | further => further)
      (.error .noEntry)

/-- The program that the first line of a script names, with an argument for it. -/
def interpreter? (text : String) : Option (String × Option String) :=
  match text.dropPrefix? "#!" with
  | none => none
  | some rest =>
    let isBlank (c : Char) : Bool := c == ' ' || c == '\t'
    let line := (rest.toString.toList.takeWhile (· != '\n')).dropWhile isBlank
    let line := (line.reverse.dropWhile isBlank).reverse
    let path := line.takeWhile (!isBlank ·)
    let argument := (line.drop path.length).dropWhile isBlank
    if path.isEmpty then none
    else some (String.ofList path, if argument.isEmpty then none else some (String.ofList argument))

end Brainfuck.Shell
