import Brainfuck.Shell.Scanner.Word
/-!
# Scanning commands

Commands from tokens. `Scanner.next` reads the next line's commands and stops there, so that a shell runs the
lines before one that cannot be read.
-/

namespace Brainfuck.Shell

/-- The commands that belong to the shell itself: their errors end it. -/
def specialBuiltins : List String :=
  [".", ":", "break", "continue", "eval", "exec", "exit", "export", "local", "readonly", "return", "set",
    "shift", "times", "trap", "unset"]

def Token.isOperator (t : Token) (symbol : String) : Bool :=
  match t with
  | .operator s => s == symbol
  | _ => false

def Token.isKeyword (t : Token) (name : String) : Bool :=
  match t with
  | .keyword k => k == name
  | _ => false

def readLine : Read Nat := return (← get).line

/-- Takes a keyword that has to follow. -/
def expectKeyword (nested : Nested) (e : Expectation) (name : String) : Read Unit := do
  let t ← readToken nested e
  if t.isKeyword name then return () else Read.unexpected t (some (.keyword name))

/-- Takes an operator that has to follow. -/
def expectOperator (nested : Nested) (symbol : String) : Read Unit := do
  let t ← readToken nested .plain
  if t.isOperator symbol then return () else Read.unexpected t (some (.operator symbol))

/-- The commands inside a compound command. -/
def readBody (nested : Nested) : Read Command := do
  return (← nested.list .body).getD .nothing

/-! ## Redirections -/

/-- Keeps a place for a here-document and announces its text. -/
def announce (w : Word) (stripTabs : Bool) : Read Nat :=
  modifyGet fun s =>
    let index := s.documents.size
    let a : Announcement := ⟨index, w.literal, w.all (!·.isQuoted), stripTabs⟩
    (index, { s with announced := s.announced ++ [a], documents := s.documents.push [] })

/-- Reads the target of a redirection. -/
def readTarget (nested : Nested) (descriptor : Nat) (kind : RedirectionKind) : Read Redirection := do
  let delimiter := match kind with
    | .document _ => true
    | _ => false
  match ← readToken nested { Expectation.plain with delimiter := delimiter } with
  | .word w =>
    match kind with
    | .file access => return .file descriptor access w
    | .duplicate => return .duplicate descriptor w
    | .document stripTabs => return .document descriptor (← announce w stripTabs)
  | t => Read.unexpected t none

/-- Reads the redirections behind a compound command. -/
def readRedirections (nested : Nested) : Nat → Read (List Redirection)
  | 0 => return []
  | n + 1 => do
    match ← readToken nested .command with
    | .redirection descriptor kind =>
      let r ← readTarget nested descriptor kind
      return r :: (← readRedirections nested n)
    | t =>
      Read.pushBack t
      return []

/-! ## Simple commands -/

/-- What has been read of a simple command, newest first. -/
structure SimpleDraft where
  assignments : List (String × Word)
  words : List Word
  redirections : List Redirection

def SimpleDraft.empty : SimpleDraft := ⟨[], [], []⟩

/-- Reads the body of a function whose name has been read. -/
def readFunction (nested : Nested) (name : Word) : Read Command := do
  expectOperator nested ")"
  match name.plain? with
  | some s =>
    if isName s && !specialBuiltins.contains s then
      let line ← readLine
      return .define line s (← nested.command .laterCommand)
    else Read.fail "Bad function name"
  | none => Read.fail "Bad function name"

/-- Reads the words of a simple command. A parenthesis behind the first one makes it a function. -/
def readSimple (nested : Nested) (line : Nat) : Nat → SimpleDraft → Read Command
  | 0, d => return .simple line d.assignments.reverse d.words.reverse d.redirections.reverse
  | n + 1, d => do
    match ← readToken nested { Expectation.plain with aliases := d.words.isEmpty } with
    | .word w =>
      match if d.words.isEmpty then w.assignment? else none with
      | some a => readSimple nested line n { d with assignments := a :: d.assignments }
      | none => readSimple nested line n { d with words := w :: d.words }
    | .redirection descriptor kind =>
      let r ← readTarget nested descriptor kind
      readSimple nested line n { d with redirections := r :: d.redirections }
    | t =>
      match t.isOperator "(", d.words, d.assignments, d.redirections with
      | true, [name], [], [] => readFunction nested name
      | _, _, _, _ =>
        Read.pushBack t
        return .simple line d.assignments.reverse d.words.reverse d.redirections.reverse

/-! ## Compound commands -/

/-- Reads what follows the first branch of a conditional. -/
def readAlternative (nested : Nested) : Nat → Read Command
  | 0 => return .nothing
  | n + 1 => do
    let t ← readToken nested .plain
    if t.isKeyword "elif" then
      let test ← readBody nested
      expectKeyword nested .plain "then"
      let positive ← readBody nested
      return .conditional test positive (← readAlternative nested n)
    else if t.isKeyword "else" then readBody nested
    else
      Read.pushBack t
      return .nothing

/-- Reads the words that a variable goes through. -/
def readItems (nested : Nested) : Nat → Read (List Word)
  | 0 => return []
  | n + 1 => do
    match ← readToken nested .plain with
    | .word w => return w :: (← readItems nested n)
    | .newline => return []
    | t => if t.isOperator ";" then return [] else Read.unexpected t none

def readFor (nested : Nested) (line : Nat) : Read Command := do
  match ← readToken nested .plain with
  | .word w =>
    match w.plain? with
    | none => Read.fail "Bad for loop variable"
    | some name =>
      if !isName name then Read.fail "Bad for loop variable"
      else
        let t ← readToken nested .laterCommand
        let items ←
          if t.isKeyword "in" then readItems nested (← Read.bound)
          else do
            if !t.isOperator ";" then Read.pushBack t
            pure [[.parameter true "@" .value]]
        expectKeyword nested .laterCommand "do"
        let body ← readBody nested
        expectKeyword nested .plain "done"
        return .forEach line name items body
  | _ => Read.fail "Bad for loop variable"

/-- The word that a token is where patterns stand. -/
def Token.patternWord : Token → Word
  | .word w => w
  | .keyword name => [.text false name]
  | _ => []

/-- Reads the patterns of a branch behind the first token, up to the parenthesis. -/
def readPatterns (nested : Nested) : Nat → Token → Read (List Word)
  | 0, _ => return []
  | n + 1, t => do
    let next ← readToken nested .plain
    if next.isOperator "|" then
      return t.patternWord :: (← readPatterns nested n (← readToken nested .plain))
    else if next.isOperator ")" then return [t.patternWord]
    else Read.unexpected next (some (.operator ")"))

def readBranches (nested : Nested) : Nat → Read (List (List Word × Command))
  | 0 => return []
  | n + 1 => do
    let t ← readToken nested .laterKeyword
    if t.isKeyword "esac" then return []
    else
      let first ← if t.isOperator "(" then readToken nested .plain else pure t
      let patterns ← readPatterns nested (← Read.bound) first
      let body := (← nested.list .optional).getD .nothing
      let t ← readToken nested .laterKeyword
      if t.isKeyword "esac" then return [(patterns, body)]
      else if t.isOperator ";;" then return (patterns, body) :: (← readBranches nested n)
      else Read.unexpected t (some (.operator ";;"))

def readCase (nested : Nested) (line : Nat) : Read Command := do
  match ← readToken nested .plain with
  | .word subject =>
    expectKeyword nested .laterKeyword "in"
    return .choice line subject (← readBranches nested (← Read.bound))
  | t => Read.unexpected t (some (.word []))

/-- Reads the compound command that a keyword begins. -/
def readCompound (nested : Nested) (line : Nat) (t : Token) : Read Command :=
  match t with
  | .keyword "if" => do
    let test ← readBody nested
    expectKeyword nested .plain "then"
    let positive ← readBody nested
    let negative ← readAlternative nested (← Read.bound)
    expectKeyword nested .plain "fi"
    return .conditional test positive negative
  | .keyword "while" => readLoop true
  | .keyword "until" => readLoop false
  | .keyword "for" => readFor nested line
  | .keyword "case" => readCase nested line
  | .keyword "\x7b" => do
    let body ← readBody nested
    expectKeyword nested .plain "\x7d"
    return body
  | t => Read.unexpected t none
where
  readLoop (expected : Bool) : Read Command := do
    let test ← readBody nested
    expectKeyword nested .plain "do"
    let body ← readBody nested
    expectKeyword nested .plain "done"
    return .loop line expected test body

def readCommand (nested : Nested) (e : Expectation) : Read Command := do
  let line ← readLine
  let t ← readToken nested e
  match t with
  | .word _ | .redirection _ _ =>
    Read.pushBack t
    let line ← readLine
    readSimple nested line (← Read.bound) .empty
  | t =>
    if t.isOperator "(" then
      let body ← readBody nested
      expectOperator nested ")"
      return .subshell line body (← readRedirections nested (← Read.bound))
    else
      let c ← readCompound nested line t
      match ← readRedirections nested (← Read.bound) with
      | [] => return c
      | redirections => return .redirected line c redirections

/-! ## Lists -/

/-- Reads the further commands of a pipeline. -/
def readPiped (nested : Nested) : Nat → Read (List Command)
  | 0 => return []
  | n + 1 => do
    let t ← readToken nested .plain
    if t.isOperator "|" then
      let c ← nested.command .laterCommand
      return c :: (← readPiped nested n)
    else
      Read.pushBack t
      return []

def readPipeline (nested : Nested) (e : Expectation) : Read Command := do
  let t ← readToken nested e
  let negated := t.isKeyword "!"
  let e ← if negated then pure .command else do
    Read.pushBack t
    pure .plain
  let first ← nested.command e
  let rest ← readPiped nested (← Read.bound)
  let c := if rest.isEmpty then first else .pipeline (first :: rest)
  return if negated then .negation c else c

/-- Reads the pipelines that are joined by `&&` and `||`, from the left. -/
def readJoined (nested : Nested) : Nat → Command → Read Command
  | 0, c => return c
  | n + 1, c => do
    let t ← readToken nested .plain
    if t.isOperator "&&" then readJoined nested n (.both c (← readPipeline nested .laterCommand))
    else if t.isOperator "||" then readJoined nested n (.either c (← readPipeline nested .laterCommand))
    else
      Read.pushBack t
      return c

def Command.after (c : Command) : Option Command → Command
  | none => c
  | some first => .sequence first c

/-- Reads the commands of a list. `canEnd` says whether a token that ends lists may stand here. -/
def readCommands (nested : Nested) (mode : ListMode) : Nat → Bool → Option Command → Read (Option Command)
  | 0, _, before => return before
  | n + 1, canEnd, before => do
    let isLine := mode = .line
    match ← readToken nested ⟨!isLine, true, true, false⟩ with
    | .newline =>
      readDocuments nested
      return some (before.getD .nothing)
    | .endOfFile =>
      readDocuments nested
      return before
    | t =>
      Read.pushBack t
      if canEnd && t.endsList then return before
      else
        let first ← readPipeline nested .plain
        let c ← readJoined nested (← Read.bound) first
        let t ← readToken nested .plain
        let c := if t.isOperator "&" then .background c else c
        let all := some (c.after before)
        match t with
        | .endOfFile =>
          readDocuments nested
          return all
        | .newline =>
          Read.pushBack t
          readCommands nested mode n (!isLine) all
        | t =>
          if t.isOperator "&" || t.isOperator ";" then readCommands nested mode n (!isLine) all
          else if isLine then Read.unexpected t none
          else
            Read.pushBack t
            return all

def readList (nested : Nested) (mode : ListMode) : Read (Option Command) := do
  readCommands nested mode (← Read.bound) (mode = .optional) none

/-- The readers for texts that are nested up to the given depth. -/
def Nested.upTo : Nat → Nested
  | 0 => ⟨fun _ => Read.fail "Too deeply nested", fun _ => Read.fail "Too deeply nested",
      fun _ => Read.fail "Too deeply nested"⟩
  | n + 1 =>
    { pieces := fun s => readWord (.upTo n) s
      list := fun mode => readList (.upTo n) mode
      command := fun e => readCommand (.upTo n) e }

namespace Scanner

def start (text : String) (documents : Array Word) : Scanner := ⟨text.toList, 1, none, [], documents, [], []⟩

/-- Reads the commands of the next line; none at the end of the text. No text is nested more deeply than it is
long. -/
def next (s : Scanner) : EStateM.Result String Scanner (Option Command) :=
  ((Nested.upTo (s.rest.length + 2)).list .line).run { s with pushed := none, announced := [] }

/-- A text with its expansions, as if it were a here-document. None if it cannot be read. -/
def document? (text : String) : Option Word :=
  match ((Nested.upTo (text.length + 2)).pieces .document).run (start text #[]) with
  | .ok w _ => some w
  | .error _ _ => none

end Scanner

end Brainfuck.Shell
