import Brainfuck.Shell.Builtin
import Brainfuck.Shell.Condition
import Brainfuck.Shell.Format
/-!
# Builtins for texts

Writing texts and testing conditions.
-/

namespace Brainfuck.Shell.Builtin

/-- Writes the arguments, their escapes replaced. -/
def echo : Builtin := fun _ arguments =>
  let (isLine, words) := match arguments with
    | "-n" :: rest => (false, rest)
    | words => (true, words)
  let rec join : List String → String
    | [] => if isLine then "\n" else ""
    | w :: rest =>
      let (text, stops) := Format.unescaped w
      if stops then text
      else if rest.isEmpty then text ++ join rest
      else text ++ " " ++ join rest
  tell (join words)

/-- Writes arguments by a format. -/
def printf : Builtin := fun _ arguments => do
  match (← readOptions [] [] arguments).2 with
  | [] => Run.fail "usage: printf format [arg ...]"
  | format :: rest =>
    let w := Format.write format rest
    w.faults.reverse.forM fun fault => Run.complain fault.message
    let status ← tell w.output
    return if w.broken then 2 else if w.faults.isEmpty then status else 1

def decide (words : List String) : Run Nat := do
  match Condition.evaluate ⟨(← get).world.files, fun _ => false⟩ words with
  | .ok holds => return if holds then 0 else 1
  | .error fault => Run.fail fault.message

def test : Builtin := fun _ words => decide words

/-- Tests a condition that a bracket closes. -/
def bracket : Builtin := fun _ words =>
  if words.getLast? = some "]" then decide words.dropLast else Run.fail "missing ]"

end Brainfuck.Shell.Builtin
