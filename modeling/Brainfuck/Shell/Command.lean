/-!
# Shell commands

What a shell reads: words, which are made of pieces to be expanded, and commands, which are made of words
and of other commands. A here-document stands in a table, because its text follows after the command.
-/

namespace Brainfuck.Shell

/-- How a file is opened for a descriptor. -/
inductive Access where
  | read
  | write
  | overwrite
  | append
  | readWrite
deriving DecidableEq

mutual

/-- A part of a word. What is quoted is neither split nor matched against file names. -/
inductive Piece where
  | text (quoted : Bool) (s : String)
  | parameter (quoted : Bool) (name : String) (use : Use)
  | substitution (quoted : Bool) (body : Command)
  | arithmetic (quoted : Bool) (expression : List Piece)

/-- What is made of a parameter. With `orEmpty` an empty value counts as none. -/
inductive Use where
  | value
  | length
  | default (orEmpty : Bool) (word : List Piece)
  | assign (orEmpty : Bool) (word : List Piece)
  | require (orEmpty : Bool) (word : List Piece)
  | alternative (orEmpty : Bool) (word : List Piece)
  | trimStart (longest : Bool) (pattern : List Piece)
  | trimEnd (longest : Bool) (pattern : List Piece)
  | bad

inductive Redirection where
  | file (descriptor : Nat) (access : Access) (target : List Piece)
  | duplicate (descriptor : Nat) (target : List Piece)
  | document (descriptor : Nat) (index : Nat)

inductive Command where
  | nothing
  | simple (line : Nat) (assignments : List (String × List Piece)) (words : List (List Piece))
      (redirections : List Redirection)
  | redirected (line : Nat) (body : Command) (redirections : List Redirection)
  | subshell (line : Nat) (body : Command) (redirections : List Redirection)
  | background (body : Command)
  | pipeline (commands : List Command)
  | negation (body : Command)
  | both (first second : Command)
  | either (first second : Command)
  | sequence (first second : Command)
  | conditional (test positive : Command) (negative : Command)
  | loop (line : Nat) (expected : Bool) (test body : Command)
  | forEach (line : Nat) (name : String) (words : List (List Piece)) (body : Command)
  | choice (line : Nat) (subject : List Piece) (branches : List (List (List Piece) × Command))
  | define (line : Nat) (name : String) (body : Command)

end

abbrev Word := List Piece

/-- The text of a word that has nothing quoted and nothing to expand. -/
def Word.plain? : Word → Option String
  | [.text false s] => some s
  | _ => none

/-! ## Names -/

def isNameStart (c : Char) : Bool := c.isAlpha || c == '_'

def isNameChar (c : Char) : Bool := c.isAlphanum || c == '_'

/-- Can the text name a variable? -/
def isName (s : String) : Bool :=
  match s.toList with
  | [] => false
  | c :: rest => isNameStart c && rest.all isNameChar

/-- A word that sets a variable: a name and an equals sign in front of the value. -/
def Word.assignment? : Word → Option (String × Word)
  | .text false s :: rest =>
    let name := String.ofList (s.toList.takeWhile (· != '='))
    match s.toList.dropWhile (· != '=') with
    | [] => none
    | _ :: value =>
      if isName name then
        some (name, if value.isEmpty then rest else .text false (String.ofList value) :: rest)
      else none
  | _ => none

end Brainfuck.Shell
