import Brainfuck.FileSystem
import Brainfuck.Options
import Brainfuck.Text.Bytes
/-!
# Utilities

Small programs that work on files and texts of bytes. A utility is called with arguments, an environment, the
files and an input; it answers with the files after it, what it wrote and its status. `Act` is what a utility
does step by step.
-/

namespace Brainfuck

namespace Utility

structure Call where
  name : String
  arguments : List String
  environment : Environment
  files : FileSystem
  input : String
  isPiped : Bool

/-- What a utility answers. `consumed` counts the bytes of the input it has taken; writes are to the output,
which is descriptor 1, and to the errors, which are descriptor 2. -/
structure Reply where
  files : FileSystem
  consumed : Nat
  writes : List (Nat × String)
  status : Nat

/-- A utility at work. Writes are kept newest first. -/
structure Work where
  call : Call
  files : FileSystem
  consumed : Nat
  writes : List (Nat × String)
  status : Nat

abbrev Act := StateM Work

end Utility

abbrev Utility := Utility.Call → Utility.Reply

namespace Utility

/-- The utility that does something. -/
def ofAct (act : Act Unit) : Utility := fun call =>
  let w := (act.run ⟨call, call.files, 0, [], 0⟩).2
  ⟨w.files, w.consumed, w.writes.reverse, w.status⟩

/-- What a utility does, with its output behind its complaints: it writes its output only at its end. -/
def buffered (utility : Utility) : Utility := fun call =>
  let r := utility call
  { r with writes := r.writes.filter (·.1 != 1) ++ r.writes.filter (·.1 == 1) }

/-! ## Quotes -/

/-- A text in the quotes of complaints. -/
def quoted (text : String) : String :=
  if text.contains '\'' then "\"" ++ text ++ "\"" else "'" ++ text ++ "'"

/-- A text that is only put in quotes if a character of it could mean something. -/
def shown (text : String) : String :=
  let isPlain (c : Char) : Bool := c.isAlphanum || 128 ≤ c.toNat || "%+,-./@_]\x7b\x7d~#".toList.contains c
  let startsPlain := text.toList.head?.any fun c => c != '~' && c != '#'
  if startsPlain && text != "\x7b" && text != "\x7d" && text.all isPlain then text else quoted text

namespace Act

def arguments : Act (List String) := return (← get).call.arguments

def write (descriptor : Nat) (text : String) : Act Unit :=
  if text.isEmpty then pure () else modify fun w => { w with writes := (descriptor, text) :: w.writes }

def out (text : String) : Act Unit := write 1 text

def setStatus (status : Nat) : Act Unit := modify fun w => { w with status := status }

/-- Says what is wrong behind the name of the utility. -/
def warn (text : String) : Act Unit := do
  write 2 ((← get).call.name ++ ": " ++ text ++ "\n")

/-- Says what is wrong and fails. -/
def fail (text : String) (status : Nat) : Act Unit := do
  warn text
  setStatus status

/-- Says what is wrong with the arguments and fails. -/
def misused (text : String) (status : Nat) : Act Unit := do
  let name := (← get).call.name
  fail (text ++ "\nTry '" ++ name ++ " --help' for more information.") status

/-- Takes what is left of the input. -/
def takeInput : Act String :=
  modifyGet fun w =>
    let rest := (w.call.input.drop w.consumed).toString
    (rest, { w with consumed := w.call.input.length })

/-- Leaves bytes that have been taken for the next reader. -/
def giveBack (n : Nat) : Act Unit := modify fun w => { w with consumed := w.consumed - n }

/-! ## Files -/

def files : Act FileSystem := return (← get).files

def setFiles (files : FileSystem) : Act Unit := modify fun w => { w with files := files }

def node (path : String) : Act (Except SystemError (Location × Node)) := do
  return (← files).find (Text.Bytes.toUnicode path)

def isDirectory (path : String) : Act Bool := do
  return match ← node path with
    | .ok (_, .directory) => true
    | _ => false

/-- The content of a file; a dash stands for the input. -/
def read (path : String) : Act (Except SystemError String) := do
  if path = "-" then return .ok (← takeInput)
  else return ((← files).readFile (Text.Bytes.toUnicode path)).map Text.Bytes.ofArray

/-- The content of a file, or nothing where it is missing, with a complaint. -/
def readOr (path : String) (status : Nat) : Act (Option String) := do
  match ← read path with
  | .ok text => return some text
  | .error e =>
    fail (shown path ++ ": " ++ e.description) status
    return none

/-- Does something to files. Fails with a complaint and the system's reason. -/
def change (complaint : String) (operation : FileSystem → Except SystemError FileSystem) : Act Unit := do
  match operation (← files) with
  | .ok files => setFiles files
  | .error e => fail (complaint ++ ": " ++ e.description) 1

end Act

/-! ## Options -/

/-- An option with its letter, its long name, and whether a value belongs to it. -/
structure OptionKind where
  letter : Char
  long : String
  takesValue : Bool

/-- The options given, in order, with their values, and the other arguments. -/
structure Parsed where
  options : List (Char × String)
  operands : List String

namespace Parsed

def has (p : Parsed) (letter : Char) : Bool := p.options.any (·.1 == letter)

/-- The last value given for an option. -/
def value? (p : Parsed) (letter : Char) : Option String := p.options.reverse.lookup letter

end Parsed

/-- Reads the letters of one argument. The answer has the options and, if the last still needs its value, its
letter. -/
def readLetters (kinds : List OptionKind) : List Char → Except String (List (Char × String) × Option Char)
  | [] => .ok ([], none)
  | c :: rest =>
    match kinds.find? (·.letter == c) with
    | none => .error ("invalid option -- '" ++ String.singleton c ++ "'")
    | some kind =>
      if kind.takesValue then
        if rest.isEmpty then .ok ([], some c) else .ok ([(c, String.ofList rest)], none)
      else do
        let (options, pending) ← readLetters kinds rest
        return ((c, "") :: options, pending)

/-- The option that a long name, which may be shortened, stands for. -/
def longKind? (kinds : List OptionKind) (name : String) : Option OptionKind :=
  (kinds.find? (·.long == name)).or <|
    match kinds.filter fun kind => !name.isEmpty && kind.long.startsWith name with
    | [kind] => some kind
    | _ => none

/-- Reads arguments. Operands may stand between options unless `inOrder` holds. -/
def readOptions (kinds : List OptionKind) (inOrder : Bool) : List String → Except String Parsed
  | [] => .ok ⟨[], []⟩
  | "--" :: rest => .ok ⟨[], rest⟩
  | argument :: rest =>
    match argument.toList with
    | '-' :: '-' :: long =>
      let name := String.ofList (long.takeWhile (· != '='))
      let value := long.drop (name.length + 1)
      match longKind? kinds name with
      | none => .error ("unrecognized option '" ++ argument ++ "'")
      | some kind =>
        if !kind.takesValue then do
          let p ← readOptions kinds inOrder rest
          return { p with options := (kind.letter, "") :: p.options }
        else if long.contains '=' then do
          let p ← readOptions kinds inOrder rest
          return { p with options := (kind.letter, String.ofList value) :: p.options }
        else
          match rest with
          | [] => .error ("option '--" ++ kind.long ++ "' requires an argument")
          | value :: rest => do
            let p ← readOptions kinds inOrder rest
            return { p with options := (kind.letter, value) :: p.options }
    | '-' :: c :: letters => do
      let (options, pending) ← readLetters kinds (c :: letters)
      match pending, rest with
      | none, rest =>
        let p ← readOptions kinds inOrder rest
        return { p with options := options ++ p.options }
      | some letter, [] =>
        throw ("option requires an argument -- '" ++ String.singleton letter ++ "'")
      | some letter, value :: rest =>
        let p ← readOptions kinds inOrder rest
        return { p with options := options ++ (letter, value) :: p.options }
    | _ =>
      if inOrder then .ok ⟨[], argument :: rest⟩
      else do
        let p ← readOptions kinds inOrder rest
        return { p with operands := argument :: p.operands }

/-- A utility with options. Fails with a status where the arguments cannot be read. -/
def withOptions (kinds : List OptionKind) (status : Nat) (act : Parsed → Act Unit) : Utility :=
  ofAct do
    match readOptions kinds false (← Act.arguments) with
    | .error text => Act.misused text status
    | .ok p => act p

/-! ## Texts -/

/-- The lines of a text, each with its line break. -/
def linesOf (text : String) : List String :=
  let parts := text.splitOn "\n"
  parts.dropLast.map (· ++ "\n") ++ parts.getLast?.toList.filter (!·.isEmpty)

/-- A line without its line break. -/
def chomp (line : String) : String := (line.dropSuffix "\n").toString

/-- A number with blanks in front. -/
def padLeft (width : Nat) (text : String) : String :=
  String.ofList (List.replicate (width - text.length) ' ') ++ text

/-- Runs a filter over the files that are named, or over the input where none is. -/
def overFiles (operands : List String) (filter : String → Act Unit) : Act Unit :=
  (if operands.isEmpty then ["-"] else operands).forM fun operand => do
    match ← Act.readOr operand 1 with
    | some text => filter text
    | none => return ()

end Utility

end Brainfuck
