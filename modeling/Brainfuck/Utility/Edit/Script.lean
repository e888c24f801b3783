import Brainfuck.Text.Regex.Traditional
import Brainfuck.Utility
/-!
# Scripts that edit streams

A script is a row of steps, each with the lines it is for. Reading one answers its steps, or what is wrong with
it and where.
-/

namespace Brainfuck.Utility.Edit

open Regex.Traditional (Dialect)

inductive Address where
  | line (n : Nat)
  | last
  | pattern (r : Option Regex)
  | every (first step : Nat)
  | further (n : Nat)

/-- A part of what replaces a match. -/
inductive Replacement where
  | text (s : String)
  | group (index : Nat)
  | upper
  | lower
  | upperNext
  | lowerNext
  | asIs

def Replacement.group? : Replacement → Option Nat
  | group index => some index
  | _ => none

structure Substitution where
  pattern : Option Regex
  replacement : List Replacement
  all : Bool
  number : Nat
  prints : Bool
  file : Option String

inductive Action where
  | block
  | close
  | print
  | printFirst
  | delete
  | deleteFirst
  | quit (prints : Bool) (status : Nat)
  | next
  | appendNext
  | hold
  | appendHold
  | get
  | appendGet
  | exchange
  | number
  | display
  | append (text : String)
  | insert (text : String)
  | change (text : String)
  | branch (label : String)
  | branchIf (label : String)
  | branchUnless (label : String)
  | label (name : String)
  | translate (table : List (Char × Char))
  | substitute (s : Substitution)
  | readFile (path : String)
  | writeFile (path : String)

structure Step where
  first : Option Address
  second : Option Address
  negated : Bool
  action : Action

/-! ## Reading scripts -/

/-- A script that is being read: what is left, and how much has been read. -/
structure Cursor where
  rest : List Char
  position : Nat

abbrev Read := StateT Cursor (Except (Nat × String))

/-- Fails at the place where reading stands. -/
def fail {α : Type} (text : String) : Read α := do
  throw ((← get).position, text)

def peek? : Read (Option Char) := return (← get).rest.head?

def skip : Read Unit := modify fun c => ⟨c.rest.drop 1, if c.rest.isEmpty then c.position else c.position + 1⟩

def skipWhile (accepts : Char → Bool) : Read (List Char) :=
  modifyGet fun c =>
    let taken := c.rest.takeWhile accepts
    (taken, ⟨c.rest.drop taken.length, c.position + taken.length⟩)

def isBlank (c : Char) : Bool := c == ' ' || c == '\t'

def readNumber : Read Nat := do
  return ((String.ofList (← skipWhile Char.isDigit)).toNat?).getD 0

/-- The text up to a delimiter. A backslash before the delimiter is dropped, and one before `n` makes a line
break; any other stays. In brackets the delimiter has no meaning where `isPattern` holds. -/
def readDelimited (delimiter : Char) (isPattern : Bool) (unfinished : String) : Nat → Read (List Char)
  | 0 => fail unfinished
  | n + 1 => do
    match ← peek? with
    | none => fail unfinished
    | some '\\' =>
      skip
      match ← peek? with
      | none => fail unfinished
      | some c =>
        skip
        let rest ← readDelimited delimiter isPattern unfinished n
        if c = delimiter then return if isPattern then c :: rest else '\\' :: c :: rest
        else if c = 'n' && isPattern then return '\n' :: rest
        else return '\\' :: c :: rest
    | some c =>
      skip
      if c = delimiter then return []
      else if c = '\n' && isPattern then fail unfinished
      else return c :: (← readDelimited delimiter isPattern unfinished n)

/-- An expression; an empty one stands for the last that was used. -/
def compile (extended ignoresCase : Bool) (text : List Char) : Read (Option Regex) := do
  if text.isEmpty then return none
  else
    match Regex.Traditional.ofText ⟨extended, ignoresCase⟩ (String.ofList text) with
    | .ok r => return some r
    | .error e => fail e.message

def readAddress? (extended : Bool) : Read (Option Address) := do
  let pattern (delimiter : Char) : Read (Option Address) := do
    skip
    let text ← readDelimited delimiter true "unterminated address regex" ((← get).rest.length + 1)
    let ignoresCase := (← peek?) = some 'I'
    if ignoresCase then skip
    return some (.pattern (← compile extended ignoresCase text))
  match ← peek? with
  | some '$' =>
    skip
    return some .last
  | some '/' => pattern '/'
  | some '\\' =>
    skip
    match ← peek? with
    | none => fail "unexpected `,'"
    | some c => pattern c
  | some '+' =>
    skip
    return some (.further (← readNumber))
  | some c =>
    if c.isDigit then
      let n ← readNumber
      if (← peek?) = some '~' then
        skip
        return some (.every n (← readNumber))
      else return some (.line n)
    else return none
  | none => return none

/-- The parts of a replacement. -/
def replacementOf : List Char → List Replacement
  | [] => []
  | '\\' :: c :: rest =>
    let part : Replacement :=
      if c.isDigit then .group (c.toNat - 48)
      else
        match c with
        | 'n' => .text "\n"
        | 't' => .text "\t"
        | 'U' => .upper
        | 'L' => .lower
        | 'u' => .upperNext
        | 'l' => .lowerNext
        | 'E' => .asIs
        | c => .text (String.singleton c)
    part :: replacementOf rest
  | '&' :: rest => .group 0 :: replacementOf rest
  | c :: rest => .text (String.singleton c) :: replacementOf rest

/-- A file name, which goes on to the end of the line. -/
def readPath : Read String := do
  let _ ← skipWhile isBlank
  return String.ofList (← skipWhile (· != '\n'))

/-- The flags of a substitution. -/
structure SubstitutionFlags where
  all : Bool
  number : Nat
  prints : Bool
  ignoresCase : Bool
  file : Option String

def readFlags : Nat → SubstitutionFlags → Read SubstitutionFlags
  | 0, flags => return flags
  | n + 1, flags => do
    match ← peek? with
    | some 'g' => skip; readFlags n { flags with all := true }
    | some 'p' => skip; readFlags n { flags with prints := true }
    | some 'i' | some 'I' => skip; readFlags n { flags with ignoresCase := true }
    | some 'm' | some 'M' => skip; readFlags n flags
    | some 'w' => do
      skip
      return { flags with file := some (← readPath) }
    | some c =>
      if c.isDigit then
        let number ← readNumber
        if number = 0 then fail "number option to `s' command may not be zero"
        else readFlags n { flags with number := number }
      else if c = '\n' || c = ';' || c = '\x7d' || c = '#' || isBlank c then return flags
      else do
        skip
        fail "unknown option to `s'"
    | none => return flags

/-- The text behind an action that adds text. -/
def readText : Read String := do
  let _ ← skipWhile isBlank
  match ← peek? with
  | none => fail "expected \\ after `a', `c' or `i'"
  | some _ =>
    if (← peek?) = some '\\' then
      skip
      let _ ← skipWhile isBlank
      if (← peek?) = some '\n' then skip
    return String.ofList (unescape (← lines ((← get).rest.length + 1))) ++ "\n"
where
  lines : Nat → Read (List Char)
    | 0 => return []
    | n + 1 => do
      match ← peek? with
      | none => return []
      | some '\n' => return []
      | some '\\' =>
        skip
        match ← peek? with
        | none => return []
        | some c =>
          skip
          return '\\' :: c :: (← lines n)
      | some c =>
        skip
        return c :: (← lines n)
  unescape : List Char → List Char
    | [] => []
    | '\\' :: 't' :: rest => '\t' :: unescape rest
    | '\\' :: c :: rest => c :: unescape rest
    | c :: rest => c :: unescape rest

def readLabel : Read String := do
  let _ ← skipWhile isBlank
  let chars ← skipWhile fun c => c != '\n' && c != ';'
  return String.ofList (chars.reverse.dropWhile isBlank).reverse

/-- The characters of a set for translation, without its backslashes. -/
def plainChars : List Char → List Char
  | [] => []
  | '\\' :: 'n' :: rest => '\n' :: plainChars rest
  | '\\' :: c :: rest => c :: plainChars rest
  | c :: rest => c :: plainChars rest

/-- Reads an action, of which the letter has been taken. -/
def readAction (extended : Bool) (letter : Char) : Read Action := do
  let bound := (← get).rest.length + 1
  match letter with
  | '\x7b' => return .block
  | '\x7d' => return .close
  | 'p' => return .print
  | 'P' => return .printFirst
  | 'd' => return .delete
  | 'D' => return .deleteFirst
  | 'n' => return .next
  | 'N' => return .appendNext
  | 'h' => return .hold
  | 'H' => return .appendHold
  | 'g' => return .get
  | 'G' => return .appendGet
  | 'x' => return .exchange
  | '=' => return .number
  | 'l' => return .display
  | 'q' =>
    let _ ← skipWhile isBlank
    return .quit true (← readNumber)
  | 'Q' =>
    let _ ← skipWhile isBlank
    return .quit false (← readNumber)
  | 'a' => return .append (← readText)
  | 'i' => return .insert (← readText)
  | 'c' => return .change (← readText)
  | 'b' => return .branch (← readLabel)
  | 't' => return .branchIf (← readLabel)
  | 'T' => return .branchUnless (← readLabel)
  | ':' =>
    let label ← readLabel
    if label.isEmpty then fail "\":\" lacks a label" else return .label label
  | 'r' => return .readFile (← readPath)
  | 'w' => return .writeFile (← readPath)
  | 'y' =>
    match ← peek? with
    | none => fail "unterminated `y' command"
    | some delimiter =>
      skip
      let source := plainChars (← readDelimited delimiter true "unterminated `y' command" bound)
      let target := plainChars (← readDelimited delimiter true "unterminated `y' command" bound)
      if source.length = target.length then return .translate (source.zip target)
      else fail "strings for `y' command are different lengths"
  | 's' =>
    match ← peek? with
    | none => fail "unterminated `s' command"
    | some delimiter =>
      skip
      let pattern ← readDelimited delimiter true "unterminated `s' command" bound
      let replacement ← readDelimited delimiter false "unterminated `s' command" bound
      let flags ← readFlags bound ⟨false, 1, false, false, none⟩
      let r ← compile extended flags.ignoresCase pattern
      let last := ((replacementOf replacement).filterMap Replacement.group?).max?.getD 0
      let groups := r.map Regex.groupCount
      if groups.any (· < last) then
        fail ("invalid reference \\" ++ toString last ++ " on `s' command's RHS")
      return .substitute ⟨r, replacementOf replacement, flags.all, flags.number, flags.prints, flags.file⟩
  | c => fail ("unknown command: `" ++ String.singleton c ++ "'")

/-- Does the end of the action need a sign before the next one? -/
def endsItself : Action → Bool
  | .block | .append _ | .insert _ | .change _ | .label _ | .readFile _ | .writeFile _ => true
  | _ => false

/-- Reads the steps of a script. `depth` counts the braces that are open. -/
def readSteps (extended : Bool) : Nat → Nat → Read (List Step)
  | 0, _ => return []
  | n + 1, depth => do
    let _ ← skipWhile fun c => isBlank c || c == ';' || c == '\n'
    match ← peek? with
    | none => if depth = 0 then return [] else throw (0, "unmatched `\x7b'")
    | some '#' =>
      let _ ← skipWhile (· != '\n')
      readSteps extended n depth
    | some _ =>
      let first ← readAddress? extended
      let _ ← skipWhile isBlank
      let second ←
        if (← peek?) = some ',' then do
          skip
          let _ ← skipWhile isBlank
          match ← readAddress? extended with
          | some a => pure (some a)
          | none => fail "unexpected `,'"
        else pure none
      let _ ← skipWhile isBlank
      let negated := (← peek?) = some '!'
      let _ ← skipWhile fun c => c == '!' || isBlank c
      match ← peek? with
      | none => fail "missing command"
      | some letter =>
        skip
        if letter = '\x7d' && depth = 0 then fail "unexpected `\x7d'"
        else
          let action ← readAction extended letter
          let depth := match action with
            | .block => depth + 1
            | .close => depth - 1
            | _ => depth
          let _ ← skipWhile isBlank
          let next ← peek?
          if endsItself action || next.all fun c => c == ';' || c == '\n' || c == '\x7d' || c == '#' then
            return ⟨first, second, negated, action⟩ :: (← readSteps extended n depth)
          else do
            skip
            fail "extra characters after command"

/-- The steps of a script, or what is wrong with it and where. -/
def stepsOf (extended : Bool) (text : String) : Except (Nat × String) (List Step) := do
  return (← (readSteps extended (text.length + 1) 0).run ⟨text.toList, 0⟩).1

end Brainfuck.Utility.Edit
