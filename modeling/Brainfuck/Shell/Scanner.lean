import Brainfuck.Shell.Command
/-!
# Scanning shell texts

A scanner stands in a text that is read from front to back. It knows the line it is in, a token that has been
read too early, the here-documents whose texts are still to come, and the aliases that it replaces.
-/

namespace Brainfuck.Shell

/-- What a redirection does before its target is known. -/
inductive RedirectionKind where
  | file (access : Access)
  | duplicate
  | document (stripTabs : Bool)
deriving DecidableEq

inductive Token where
  | endOfFile
  | newline
  | operator (symbol : String)
  | redirection (descriptor : Nat) (kind : RedirectionKind)
  | word (w : Word)
  | keyword (name : String)

/-- How complaints call a token. -/
def Token.name : Token → String
  | endOfFile => "end of file"
  | newline => "newline"
  | operator symbol => "\"" ++ symbol ++ "\""
  | redirection _ _ => "redirection"
  | word _ => "word"
  | keyword name => "\"" ++ name ++ "\""

def keywords : List String :=
  ["!", "case", "do", "done", "elif", "else", "esac", "fi", "for", "if", "in", "then", "until", "while", "\x7b",
    "\x7d"]

/-- Does the token end a list of commands? -/
def Token.endsList : Token → Bool
  | endOfFile => true
  | operator symbol => symbol == ")" || symbol == ";;"
  | keyword name => ["do", "done", "elif", "else", "esac", "fi", "then", "\x7d"].contains name
  | _ => false

/-- A here-document whose text has not been reached. -/
structure Announcement where
  index : Nat
  delimiter : String
  expanded : Bool
  stripTabs : Bool

/-- An alias whose text is being read: its name, how much text follows it, and whether the word behind it may
be an alias as well. -/
structure AliasUse where
  name : String
  after : Nat
  opensNext : Bool

structure Scanner where
  rest : List Char
  line : Nat
  pushed : Option Token
  announced : List Announcement
  documents : Array Word
  aliases : List (String × String)
  uses : List AliasUse

/-- Reading fails with what is wrong with the text. -/
abbrev Read := EStateM String Scanner

/-! ## Characters -/

/-- The text without the line breaks at its front that a backslash hides, and how many there are. -/
def withoutJoins : List Char → List Char × Nat
  | '\\' :: '\n' :: rest =>
    let (rest, joins) := withoutJoins rest
    (rest, joins + 1)
  | rest => (rest, 0)

namespace Read

def fail {α : Type} (message : String) : Read α := throw message

/-- The next character, which is not taken. -/
def peek? : Read (Option Char) :=
  modifyGet fun s =>
    let (rest, joins) := withoutJoins s.rest
    (rest.head?, { s with rest := rest, line := s.line + joins })

/-- The next character, even if it is a backslash before a line break. -/
def nextRaw? : Read (Option Char) :=
  modifyGet fun s =>
    match s.rest with
    | [] => (none, s)
    | c :: rest => (some c, { s with rest := rest, line := if c = '\n' then s.line + 1 else s.line })

/-- Passes a character that has been peeked at. -/
def skip : Read Unit := do
  let _ ← nextRaw?

/-- Takes the next character if it is the given one. -/
def accept (c : Char) : Read Bool := do
  if (← peek?) = some c then
    skip
    return true
  else return false

/-- Takes characters as long as they are accepted. -/
def takeWhile (accepts : Char → Bool) : Nat → Read (List Char)
  | 0 => return []
  | n + 1 => do
    match ← peek? with
    | some c =>
      if accepts c then
        skip
        return c :: (← takeWhile accepts n)
      else return []
    | none => return []

/-- More characters than are left to read. -/
def bound : Read Nat := return (← get).rest.length + 1

def pushBack (t : Token) : Read Unit := modify fun s => { s with pushed := some t }

/-- Reads another text. Only the here-documents found in it are kept. -/
def onText {α : Type} (text : List Char) (line : Nat) (read : Read α) : Read α := do
  let outer ← get
  set { outer with rest := text, line := line, pushed := none, announced := [], uses := [] }
  let a ← read
  modify fun inner => { outer with documents := inner.documents }
  return a

end Read

end Brainfuck.Shell
