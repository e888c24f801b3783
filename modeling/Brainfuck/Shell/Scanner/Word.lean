import Brainfuck.Shell.Scanner
/-!
# Scanning words

Words with their quotes, parameters and substitutions. A word may hold words and commands in turn, so the
functions here are given the readers of what is nested in a text: `Nested`.
-/

namespace Brainfuck.Shell

/-- Where the pieces that are being read stand, which decides what ends them and what their characters
mean. -/
inductive Surrounding where
  | word (isDelimiter : Bool)
  | braces
  | quotes
  | quotedBraces (inDocument : Bool)
  | document
  | arithmetic
deriving DecidableEq

/-- How the commands of a list are set off. -/
inductive ListMode where
  | line
  | body
  | optional
deriving DecidableEq

/-- What a token may be, seen from where it stands. -/
structure Expectation where
  skipNewlines : Bool
  keywords : Bool
  aliases : Bool
  delimiter : Bool

namespace Expectation

def plain : Expectation := ⟨false, false, false, false⟩

/-- At the start of a command. -/
def command : Expectation := ⟨false, true, true, false⟩

/-- At the start of a command that may be on a later line. -/
def laterCommand : Expectation := ⟨true, true, true, false⟩

/-- Where a keyword may stand, on this line or a later one, but no command. -/
def laterKeyword : Expectation := ⟨true, true, false, false⟩

end Expectation

/-- Readers of what is nested in a text. -/
structure Nested where
  pieces : Surrounding → Read Word
  list : ListMode → Read (Option Command)
  command : Expectation → Read Command

/-! ## Pieces -/

/-- Adds a character to pieces that are kept newest first. -/
def addChar (quoted : Bool) (c : Char) (pieces : Word) : Word :=
  match pieces with
  | .text q s :: rest =>
    if q == quoted then .text q (s.push c) :: rest else .text quoted (String.singleton c) :: pieces
  | _ => .text quoted (String.singleton c) :: pieces

def Piece.isQuoted : Piece → Bool
  | .text quoted _ | .parameter quoted _ _ | .substitution quoted _ | .arithmetic quoted _ => quoted

/-- The characters of the text pieces. -/
def Word.literal (w : Word) : String :=
  String.join <| w.map fun p =>
    match p with
    | .text _ s => s
    | _ => ""

namespace Surrounding

def isQuoted : Surrounding → Bool
  | word _ | braces => false
  | _ => true

/-- What is wrong where the text ends here. -/
def unfinished : Surrounding → Option String
  | word _ | document => none
  | braces | quotedBraces true => some "Missing '\x7d'"
  | quotes | quotedBraces false => some "Unterminated quoted string"
  | arithmetic => some "Missing '))'"

/-- Does a backslash take the meaning of a character away, where it is quoted? -/
def isEscapable (s : Surrounding) (c : Char) : Bool :=
  c == '\\' || c == '$' || c == '\x60' || (c == '\x22' && s != document) ||
    (c == '\x7d' && (s == quotedBraces true || s == quotedBraces false))

/-- The surrounding of a word in braces. -/
def inBraces : Surrounding → Surrounding
  | word _ | braces => braces
  | document => quotedBraces true
  | quotedBraces inDocument => quotedBraces inDocument
  | quotes | arithmetic => quotedBraces false

end Surrounding

/-- The characters that end a word. -/
def endsWord (c : Char) : Bool :=
  c == '\n' || c == ' ' || c == '\t' || c == ';' || c == '&' || c == '|' || c == '(' || c == ')' ||
    c == '<' || c == '>'

def isSpecialParameter (c : Char) : Bool := "*@#?$!-".toList.contains c

/-! ## Parameters -/

/-- The name of a parameter in braces; with `length` it may only be one of those whose length is asked for. -/
def readName? : Read (Option String) := do
  match ← Read.peek? with
  | some c =>
    if isNameStart c then return some (String.ofList (← Read.takeWhile isNameChar (← Read.bound)))
    else if c.isDigit then return some (String.ofList (← Read.takeWhile Char.isDigit (← Read.bound)))
    else return none
  | none => return none

/-- Passes a line break that stands where a sign has to be. It does not count as a line. -/
def skipUncounted : Read Unit :=
  modify fun s => if s.rest.head? = some '\n' then { s with rest := s.rest.tail } else s

/-- What stands behind the name of a parameter in braces, up to the closing brace. -/
def readUse (nested : Nested) (s : Surrounding) : Read Use := do
  let inBraces := s.inBraces
  let trim (sign : Char) (use : Bool → Word → Use) : Read Use := do
    Read.skip
    let longest ← Read.accept sign
    return use longest (← nested.pieces .braces)
  let colon ← Read.accept ':'
  match ← Read.peek? with
  | some '-' => Read.skip; return .default colon (← nested.pieces inBraces)
  | some '=' => Read.skip; return .assign colon (← nested.pieces inBraces)
  | some '?' => Read.skip; return .require colon (← nested.pieces inBraces)
  | some '+' => Read.skip; return .alternative colon (← nested.pieces inBraces)
  | some c =>
    if !colon && c = '\x7d' then
      Read.skip
      return .value
    else if !colon && c = '#' then trim '#' .trimStart
    else if !colon && c = '%' then trim '%' .trimEnd
    else
      skipUncounted
      let _ ← nested.pieces inBraces
      return .bad
  | none =>
    let _ ← nested.pieces inBraces
    return .bad

/-- What is to be expanded behind a dollar sign and an opening brace. -/
def readBraced (nested : Nested) (s : Surrounding) : Read Piece := do
  let finish (name : String) (use : Use) : Piece := .parameter s.isQuoted name use
  match ← readName? with
  | some name => return finish name (← readUse nested s)
  | none =>
    match ← Read.peek? with
    | some '#' =>
      Read.skip
      match ← readName? with
      | some name =>
        let _ ← nested.pieces s.inBraces
        return finish name .length
      | none =>
        let before ← get
        match ← Read.peek? with
        | some c =>
          Read.skip
          if c != '\x7d' && isSpecialParameter c && (← Read.accept '\x7d') then
            return finish (String.singleton c) .length
          else
            set before
            return finish "#" (← readUse nested s)
        | none =>
          let _ ← nested.pieces s.inBraces
          return finish "#" .bad
    | some c =>
      if isSpecialParameter c then
        Read.skip
        return finish (String.singleton c) (← readUse nested s)
      else
        skipUncounted
        let _ ← nested.pieces s.inBraces
        return finish "" .bad
    | none =>
      let _ ← nested.pieces s.inBraces
      return finish "" .bad

/-! ## Substitutions -/

/-- The token that has to follow in place of another one. -/
def Read.unexpected {α : Type} (found : Token) (wanted : Option Token) : Read α :=
  match wanted with
  | none => fail (found.name ++ " unexpected")
  | some t => fail (found.name ++ " unexpected (expecting " ++ t.name ++ ")")

/-- The text up to a backquote. A backslash stays unless it takes a meaning away. -/
def readBackquoted (s : Surrounding) : Nat → Read (List Char)
  | 0 => Read.fail "EOF in backquote substitution"
  | n + 1 => do
    match ← Read.peek? with
    | none => Read.fail "EOF in backquote substitution"
    | some '\x60' =>
      Read.skip
      return []
    | some '\\' =>
      Read.skip
      match ← Read.nextRaw? with
      | none => Read.fail "EOF in backquote substitution"
      | some c =>
        let rest ← readBackquoted s n
        if c == '\\' || c == '\x60' || c == '$' || (s.isQuoted && c == '\x22') then return c :: rest
        else return '\\' :: c :: rest
    | some c =>
      Read.skip
      return c :: (← readBackquoted s n)

/-- The commands between backquotes. What follows the first list of commands is not looked at. -/
def readOldSubstitution (nested : Nested) (s : Surrounding) : Read Piece := do
  let text ← readBackquoted s (← Read.bound)
  let body ← Read.onText text 1 (nested.list .optional)
  return .substitution s.isQuoted (body.getD .nothing)

/-- What is to be expanded behind a dollar sign, if anything. -/
def readExpansion? (nested : Nested) (s : Surrounding) : Read (Option Piece) := do
  match ← Read.peek? with
  | none => return none
  | some '\x7b' =>
    Read.skip
    return some (← readBraced nested s)
  | some '(' =>
    Read.skip
    if ← Read.accept '(' then return some (.arithmetic s.isQuoted (← nested.pieces .arithmetic))
    else
      let outer ← get
      set { outer with pushed := none, announced := [] }
      let body ← nested.list .optional
      let t := (← get).pushed.getD .endOfFile
      match t with
      | .operator ")" =>
        modify fun s => { s with pushed := outer.pushed, announced := outer.announced }
        return some (.substitution s.isQuoted (body.getD .nothing))
      | t => Read.unexpected t (some (.operator ")"))
  | some c =>
    if isNameStart c then
      let name ← Read.takeWhile isNameChar (← Read.bound)
      return some (.parameter s.isQuoted (String.ofList name) .value)
    else if c.isDigit || isSpecialParameter c then
      Read.skip
      return some (.parameter s.isQuoted (String.singleton c) .value)
    else return none

/-! ## Words -/

/-- The text up to a single quote. -/
def readSingleQuoted : Nat → Read (List Char)
  | 0 => Read.fail "Unterminated quoted string"
  | n + 1 => do
    match ← Read.nextRaw? with
    | none => Read.fail "Unterminated quoted string"
    | some '\x27' => return []
    | some c => return c :: (← readSingleQuoted n)

/-- Reads pieces, newest first, as far as the surrounding goes. `depth` counts open parentheses. -/
def readPieces (nested : Nested) (s : Surrounding) : Nat → Nat → Word → Read Word
  | 0, _, pieces => return pieces
  | n + 1, depth, pieces => do
    let literal (c : Char) : Read Word := do
      Read.skip
      readPieces nested s n depth (addChar s.isQuoted c pieces)
    let isDelimiter := s = .word true
    match ← Read.peek? with
    | none =>
      match s.unfinished with
      | none => return pieces
      | some message => Read.fail message
    | some '\\' =>
      Read.skip
      match ← Read.nextRaw? with
      | none => return addChar s.isQuoted '\\' pieces
      | some c =>
        if !s.isQuoted || s.isEscapable c then readPieces nested s n depth (addChar true c pieces)
        else readPieces nested s n depth (addChar true c (addChar true '\\' pieces))
    | some '\x27' =>
      if s.isQuoted then literal '\x27'
      else
        Read.skip
        let text ← readSingleQuoted (← Read.bound)
        readPieces nested s n depth (.text true (String.ofList text) :: pieces)
    | some '\x22' =>
      if s = .document || s = .arithmetic then literal '\x22'
      else
        Read.skip
        if s = .quotes then return pieces
        else
          let inner ← nested.pieces .quotes
          let inner := if inner.isEmpty then [.text true ""] else inner
          readPieces nested s n depth (inner.reverse ++ pieces)
    | some '$' =>
      if isDelimiter then literal '$'
      else
        Read.skip
        match ← readExpansion? nested s with
        | some piece => readPieces nested s n depth (piece :: pieces)
        | none => readPieces nested s n depth (addChar s.isQuoted '$' pieces)
    | some '\x60' =>
      if isDelimiter then literal '\x60'
      else
        Read.skip
        let piece ← readOldSubstitution nested s
        readPieces nested s n depth (piece :: pieces)
    | some c =>
      match s with
      | .word _ => if endsWord c then return pieces else literal c
      | .braces | .quotedBraces _ =>
        if c = '\x7d' then
          Read.skip
          return pieces
        else literal c
      | .quotes | .document => literal c
      | .arithmetic =>
        if c = '(' then
          Read.skip
          readPieces nested s n (depth + 1) (addChar true c pieces)
        else if c = ')' then
          Read.skip
          if 0 < depth then readPieces nested s n (depth - 1) (addChar true c pieces)
          else if ← Read.accept ')' then return pieces
          else readPieces nested s n depth (addChar true c pieces)
        else literal c

/-- Reads pieces in a surrounding. -/
def readWord (nested : Nested) (s : Surrounding) : Read Word := do
  return (← readPieces nested s (← Read.bound) 0 []).reverse

/-! ## Tokens -/

/-- Passes blanks and a comment. -/
def skipBlanks : Nat → Read Unit
  | 0 => return ()
  | n + 1 => do
    match ← Read.peek? with
    | some ' ' | some '\t' =>
      Read.skip
      skipBlanks n
    | some '#' => modify fun s => { s with rest := s.rest.dropWhile (· != '\n') }
    | _ => return ()

/-- An operator that may be written twice. -/
def readDoubled (c : Char) : Read Token := do
  Read.skip
  let again ← Read.accept c
  return .operator (String.ofList (if again then [c, c] else [c]))

/-- What a redirection sign means. -/
def readRedirection (descriptor : Option Nat) : Read Token := do
  if ← Read.accept '>' then
    let n := descriptor.getD 1
    if ← Read.accept '>' then return .redirection n (.file .append)
    else if ← Read.accept '|' then return .redirection n (.file .overwrite)
    else if ← Read.accept '&' then return .redirection n .duplicate
    else return .redirection n (.file .write)
  else
    Read.skip
    let n := descriptor.getD 0
    if ← Read.accept '<' then return .redirection n (.document (← Read.accept '-'))
    else if ← Read.accept '&' then return .redirection n .duplicate
    else if ← Read.accept '>' then return .redirection n (.file .readWrite)
    else return .redirection n (.file .read)

/-- The number of the descriptor in front of a redirection. -/
def descriptor? (w : Word) : Option Nat :=
  match w.plain? with
  | none => none
  | some s =>
    match s.toList with
    | [c] => if c.isDigit then some (c.toNat - 48) else none
    | _ => none

def scanToken (nested : Nested) (delimiter : Bool) : Read Token := do
  skipBlanks (← Read.bound)
  match ← Read.peek? with
  | none => return .endOfFile
  | some '\n' =>
    Read.skip
    return .newline
  | some '&' => readDoubled '&'
  | some '|' => readDoubled '|'
  | some ';' => readDoubled ';'
  | some '(' =>
    Read.skip
    return .operator "("
  | some ')' =>
    Read.skip
    return .operator ")"
  | some '<' | some '>' => readRedirection none
  | some _ =>
    let w ← readWord nested (.word delimiter)
    let next ← Read.peek?
    match descriptor? w with
    | some n => if next = some '<' || next = some '>' then readRedirection (some n) else return .word w
    | none => return .word w

/-! ## Here-documents -/

/-- The lines of a here-document up to its delimiter. -/
def takeDocument (a : Announcement) : Nat → List Char → List Char × List Char × Nat
  | 0, rest => ([], rest, 0)
  | n + 1, rest =>
    let rest := if a.stripTabs then rest.dropWhile (· = '\t') else rest
    let line := rest.takeWhile (· != '\n')
    match rest.drop line.length with
    | [] => if String.ofList line = a.delimiter then ([], [], 0) else (line, [], 0)
    | _ :: after =>
      if String.ofList line = a.delimiter then ([], after, 1)
      else
        let (text, after, lines) := takeDocument a n after
        (line ++ '\n' :: text, after, lines + 1)

/-- Reads the here-documents that have been announced. -/
def readDocuments (nested : Nested) : Read Unit := do
  let announced := (← get).announced
  modify fun s => { s with announced := [] }
  announced.forM fun a => do
    let s ← get
    let (text, rest, lines) := takeDocument a (s.rest.length + 1) s.rest
    let w ←
      if a.expanded then Read.onText text s.line (nested.pieces .document)
      else pure [.text true (String.ofList text)]
    modify fun s =>
      { s with rest := rest, line := s.line + lines, documents := s.documents.setIfInBounds a.index w }

/-! ## Tokens in their places -/

/-- The token that has been read too early, or else the next one. -/
def nextToken (nested : Nested) (delimiter : Bool) : Read Token := do
  match (← get).pushed with
  | some t =>
    modify fun s => { s with pushed := none }
    return t
  | none => scanToken nested delimiter

/-- The next token that is no line break. -/
def afterNewlines (nested : Nested) : Nat → Token → Read Token
  | 0, t => return t
  | n + 1, t =>
    match t with
    | .newline => do
      readDocuments nested
      afterNewlines nested n (← nextToken nested false)
    | t => return t

/-- Replaces an alias that has just been read by its text, unless it is part of that text. -/
def replaceAlias (name : String) : Read Bool :=
  modifyGet fun s =>
    let size := s.rest.length
    let uses := s.uses.filter fun u => u.after ≤ size
    match if uses.any (·.name == name) then none else s.aliases.lookup name with
    | none => (false, s)
    | some text =>
      let opensNext := text.endsWith " " || text.endsWith "\t"
      (true, { s with rest := text.toList ++ s.rest, uses := ⟨name, size, opensNext⟩ :: uses })

/-- Reads a token. As many aliases may stand for each other as the first argument says. -/
def readTokenThrough (nested : Nested) (e : Expectation) : Nat → Read Token
  | 0 => nextToken nested e.delimiter
  | n + 1 => do
    let before ← get
    let t ← nextToken nested e.delimiter
    let t ← if e.skipNewlines then afterNewlines nested (← Read.bound) t else pure t
    match t with
    | .word w =>
      match w.plain? with
      | none => return t
      | some s =>
        if e.keywords && keywords.contains s then return .keyword s
        else
          let size := (← get).rest.length
          let isBehind := before.pushed.isNone && before.uses.any fun u =>
            u.opensNext && u.after ≤ before.rest.length && size < u.after
          if !(e.aliases || isBehind) then return t
          else if ← replaceAlias s then readTokenThrough nested e n
          else return t
    | t => return t

def readToken (nested : Nested) (e : Expectation) : Read Token := do
  let s ← get
  readTokenThrough nested e ((s.rest.length + 2) * (s.aliases.length + 1))

end Brainfuck.Shell
