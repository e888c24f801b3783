import Brainfuck.Shell.Process
/-!
# Builtins

What the commands inside a shell have in common: how they read their options, and how they write.
-/

namespace Brainfuck.Shell

/-- A command of the shell itself. Answers a status; an error of a command that is not special only ends that
command. -/
abbrev Builtin := Engine → List String → Run Nat

namespace Builtin

/-- Writes to the output. Answers the status that this leaves. -/
def tell (text : String) : Run Nat := do
  match ← Run.write 1 text with
  | .ok _ => return 0
  | .error _ =>
    Run.complain (((← get).builtin.getD "") ++ ": I/O error")
    return 1

/-- Writes to the errors as it is. -/
def note (text : String) : Run Unit := Run.send 2 text

/-- A number that is not negative. -/
def number (text : String) : Run Nat := do
  match if text.all Char.isDigit then text.toNat? else none with
  | some n =>
    if n ≤ Int32.maxValue.toInt then return n else Run.fail ("Illegal number: " ++ text)
  | none => Run.fail ("Illegal number: " ++ text)

/-- Reads the letters of one argument. A letter that takes a value has the rest as its value, or asks for the
next argument. -/
def readLetters (plain valued : List Char) : List Char → Run (List (Char × String) × Option Char)
  | [] => return ([], none)
  | c :: rest => do
    if valued.contains c then
      return if rest.isEmpty then ([], some c) else ([(c, String.ofList rest)], none)
    else if plain.contains c then
      let (options, pending) ← readLetters plain valued rest
      return ((c, "") :: options, pending)
    else Run.fail ("Illegal option -" ++ String.singleton c)

/-- Reads the options at the front of the arguments. Answers them, with their values, and what follows. -/
def readOptions (plain valued : List Char) : List String → Run (List (Char × String) × List String)
  | [] => return ([], [])
  | "--" :: rest => return ([], rest)
  | argument :: rest =>
    match argument.toList with
    | '-' :: c :: letters => do
      let (options, pending) ← readLetters plain valued (c :: letters)
      match pending, rest with
      | none, rest =>
        let (others, operands) ← readOptions plain valued rest
        return (options ++ others, operands)
      | some letter, [] => Run.fail ("No arg for -" ++ String.singleton letter ++ " option")
      | some letter, value :: rest =>
        let (others, operands) ← readOptions plain valued rest
        return (options ++ (letter, value) :: others, operands)
    | _ => return ([], argument :: rest)

/-- A text in quotes that a shell reads back. -/
def inQuotes (text : String) : String :=
  let runs := text.toList.splitBy fun a b => (a == '\x27') == (b == '\x27')
  let quoted := runs.map fun run =>
    let mark := if run.head? = some '\x27' then "\"" else "\x27"
    mark ++ String.ofList run ++ mark
  (if text.isEmpty || text.startsWith "\x27" then "\x27\x27" else "") ++ String.join quoted

end Builtin

end Brainfuck.Shell
