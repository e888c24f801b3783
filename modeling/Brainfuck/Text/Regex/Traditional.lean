import Brainfuck.Text.NamedClass
import Brainfuck.Text.Regex
/-!
# Traditional notations of regular expressions

Two older notations, which editors and filters use. In the basic one groups, counts and alternatives are
written with a backslash; in the extended one they are written without.
-/

namespace Brainfuck.Regex.Traditional

/-- How expressions are written, and whether case counts. -/
structure Dialect where
  extended : Bool
  ignoresCase : Bool

/-- What is wrong with an expression. -/
inductive Fault where
  | unmatchedBracket
  | unmatchedParenthesis
  | unmatchedClosing
  | unmatchedBrace
  | badCount
  | badReference
  | badRepetition
  | badClass
  | badRange
  | trailingBackslash
deriving DecidableEq

def Fault.message : Fault → String
  | unmatchedBracket => "Unmatched [, [^, [:, [., or [="
  | unmatchedParenthesis => "Unmatched ( or \\("
  | unmatchedClosing => "Unmatched ) or \\)"
  | unmatchedBrace => "Unmatched \\\x7b"
  | badCount => "Invalid content of \\\x7b\\\x7d"
  | badReference => "Invalid back reference"
  | badRepetition => "Invalid preceding regular expression"
  | badClass => "Invalid character class name"
  | badRange => "Invalid range end"
  | trailingBackslash => "Trailing backslash"

/-- What has been read, and how many groups there are so far. -/
structure State where
  rest : List Char
  groups : Nat

abbrev Read := StateT State (Except Fault)

def isWordByte (c : Char) : Bool := c.isAlphanum || c == '_'

namespace Dialect

/-- A character as it matches. -/
def accepts (d : Dialect) (test : Char → Bool) (c : Char) : Bool :=
  test c || (d.ignoresCase && (test c.toLower || test c.toUpper))

def literal (d : Dialect) (c : Char) : Regex := .char (d.accepts (· == c))

end Dialect

/-! ## Sets -/

/-- The members of a set up to its closing bracket. A bracket at the start is a member. -/
def readMembers : Nat → Bool → Read (Char → Bool)
  | 0, _ => throw .unmatchedBracket
  | n + 1, first => do
    let also (test : Char → Bool) (rest : List Char) : Read (Char → Bool) := do
      modify fun s => { s with rest := rest }
      let others ← readMembers n false
      return fun c => test c || others c
    match (← get).rest with
    | [] => throw .unmatchedBracket
    | ']' :: rest =>
      if first then also (· == ']') rest
      else
        modify fun s => { s with rest := rest }
        return fun _ => false
    | '[' :: ':' :: rest =>
      let name := rest.takeWhile Char.isAlpha
      match rest.drop name.length with
      | ':' :: ']' :: rest =>
        match Text.namedClass? (String.ofList name) with
        | some test => also test rest
        | none => throw .badClass
      | _ => throw .unmatchedBracket
    | low :: '-' :: ']' :: rest => also (· == low) ('-' :: ']' :: rest)
    | low :: '-' :: high :: rest =>
      if high.toNat < low.toNat then throw .badRange
      else also (fun c => low.toNat ≤ c.toNat && c.toNat ≤ high.toNat) rest
    | c :: rest => also (· == c) rest

/-- The set behind an opening bracket. -/
def readSet (d : Dialect) : Read Regex := do
  let negated := (← get).rest.head? = some '^'
  if negated then modify fun s => { s with rest := s.rest.drop 1 }
  let test ← readMembers ((← get).rest.length + 1) true
  return .char fun c => d.accepts test c != negated

/-! ## Counts -/

/-- The text that closes a count. -/
def closing (d : Dialect) : List Char := if d.extended then ['\x7d'] else ['\\', '\x7d']

/-- The count behind an opening brace. -/
def readCount (d : Dialect) : Read (Nat × Option Nat) := do
  let rest := (← get).rest
  let low := rest.takeWhile Char.isDigit
  let rest := rest.drop low.length
  let least := (String.ofList low).toNat?.getD 0
  let close (rest : List Char) (most : Option Nat) : Read (Nat × Option Nat) := do
    if (closing d).isPrefixOf rest then
      modify fun s => { s with rest := rest.drop (closing d).length }
      if most.any (· < least) then throw .badCount else return (least, most)
    else if rest.isEmpty then throw .unmatchedBrace
    else throw .badCount
  match rest with
  | ',' :: rest =>
    let high := rest.takeWhile Char.isDigit
    close (rest.drop high.length) (String.ofList high).toNat?
  | rest => if low.isEmpty then throw .badCount else close rest (some least)

/-- The signs of repetition behind an expression. -/
def readRepetitions (d : Dialect) : Nat → Regex → Read Regex
  | 0, r => return r
  | n + 1, r => do
    let go (rest : List Char) (least : Nat) (most : Option Nat) : Read Regex := do
      modify fun s => { s with rest := rest }
      readRepetitions d n (.many r least most)
    let counted (rest : List Char) : Read Regex := do
      modify fun s => { s with rest := rest }
      let (least, most) ← readCount d
      readRepetitions d n (.many r least most)
    match d.extended, (← get).rest with
    | _, '*' :: rest => go rest 0 none
    | true, '+' :: rest => go rest 1 none
    | true, '?' :: rest => go rest 0 (some 1)
    | true, '\x7b' :: rest => counted rest
    | false, '\\' :: '+' :: rest => go rest 1 none
    | false, '\\' :: '?' :: rest => go rest 0 (some 1)
    | false, '\\' :: '\x7b' :: rest => counted rest
    | _, _ => return r

/-! ## Expressions -/

/-- The sign in front of the rest, if one of these stands there: an alternative, or the end of a group. -/
def alternative? (d : Dialect) (rest : List Char) : Option (List Char) :=
  match d.extended, rest with
  | true, '|' :: rest => some rest
  | false, '\\' :: '|' :: rest => some rest
  | _, _ => none

def groupEnd? (d : Dialect) (rest : List Char) : Option (List Char) :=
  match d.extended, rest with
  | true, ')' :: rest => some rest
  | false, '\\' :: ')' :: rest => some rest
  | _, _ => none

/-- What a backslash and a character match, if they mean something of their own. -/
def escaped? (d : Dialect) : Char → Option Regex
  | 'w' => some (.char isWordByte)
  | 'W' => some (.char fun c => !isWordByte c)
  | 's' => some (.char Text.isSpace)
  | 'S' => some (.char fun c => !Text.isSpace c)
  | 'b' => some (.assertion .boundary)
  | 'B' => some (.assertion .notBoundary)
  | '<' => some (.assertion .wordStart)
  | '>' => some (.assertion .wordEnd)
  | '\x60' => some (.assertion .textStart)
  | '\x27' => some (.assertion .textEnd)
  | 'n' => some (d.literal '\n')
  | _ => none

/-- Reads one part that may be repeated. `nested` reads a whole expression; `first` says that the part begins
a branch. -/
def readPart (d : Dialect) (nested : Read Regex) (depth : Nat) (first : Bool) : Read Regex := do
  let take (rest : List Char) (r : Regex) : Read Regex := do
    modify fun s => { s with rest := rest }
    return r
  let group (rest : List Char) : Read Regex := do
    let index := (← get).groups + 1
    set (⟨rest, index⟩ : State)
    let r ← nested
    match groupEnd? d (← get).rest with
    | some rest => take rest (.group index r)
    | none => throw .unmatchedParenthesis
  match (← get).rest with
  | [] => return .empty
  | '\\' :: [] => throw .trailingBackslash
  | '\\' :: '(' :: rest => if d.extended then take rest (d.literal '(') else group rest
  | '\\' :: ')' :: rest => if d.extended then take rest (d.literal ')') else throw .unmatchedClosing
  | '\\' :: c :: rest =>
    if c.isDigit && c != '0' then
      let index := c.toNat - 48
      if (← get).groups < index then throw .badReference else take rest (.again index)
    else take rest ((escaped? d c).getD (d.literal c))
  | '.' :: rest => take rest (.char fun _ => true)
  | '[' :: rest =>
    modify fun s => { s with rest := rest }
    readSet d
  | '^' :: rest =>
    if d.extended || first then take rest (.assertion .textStart) else take rest (d.literal '^')
  | '$' :: rest =>
    let ends := rest.isEmpty || (groupEnd? d rest).isSome || (alternative? d rest).isSome
    if d.extended || ends then take rest (.assertion .textEnd) else take rest (d.literal '$')
  | c :: rest =>
    if d.extended then
      if c = '(' then group rest
      else if c = ')' && depth = 0 then throw .unmatchedClosing
      else if c = '*' || c = '+' || c = '?' || c = '\x7b' then
        if first then if c = '*' then take rest .empty else throw .badRepetition
        else take rest (d.literal c)
      else take rest (d.literal c)
    else take rest (d.literal c)

/-- Reads the parts of a branch. -/
def readBranch (d : Dialect) (nested : Read Regex) (depth : Nat) : Nat → Bool → Read (List Regex)
  | 0, _ => return []
  | n + 1, first => do
    let rest := (← get).rest
    if rest.isEmpty || (alternative? d rest).isSome || (depth != 0 && (groupEnd? d rest).isSome) then return []
    else
      let anchor := first && !d.extended && rest.head? = some '^'
      let star := first && !d.extended && rest.head? = some '*'
      let r ← readPart d nested depth first
      let r ← if anchor || star then pure r else readRepetitions d n r
      let literalStar := anchor && (← get).rest.head? = some '*'
      if literalStar then
        modify fun s => { s with rest := s.rest.drop 1 }
        let star ← readRepetitions d n (d.literal '*')
        return r :: star :: (← readBranch d nested depth n false)
      else if star then
        let r ← readRepetitions d n r
        return r :: (← readBranch d nested depth n false)
      else return r :: (← readBranch d nested depth n false)

/-- Reads branches up to the end of the text or of the group. -/
def readBranches (d : Dialect) (nested : Read Regex) (depth : Nat) : Nat → Read (List Regex)
  | 0 => return []
  | n + 1 => do
    let branch ← readBranch d nested depth ((← get).rest.length + 1) true
    let r := Regex.sequence branch
    match alternative? d (← get).rest with
    | some rest =>
      modify fun s => { s with rest := rest }
      return r :: (← readBranches d nested depth n)
    | none => return [r]

/-- Reads an expression with groups up to a depth. -/
def readExpression (d : Dialect) : Nat → Nat → Read Regex
  | 0, _ => throw .unmatchedParenthesis
  | n + 1, depth => do
    return Regex.oneOf (← readBranches d (readExpression d n (depth + 1)) depth ((← get).rest.length + 1))

def ofText (d : Dialect) (text : String) : Except Fault Regex := do
  let (r, s) ← (readExpression d (text.length + 2) 0).run ⟨text.toList, 0⟩
  match s.rest with
  | [] => return r
  | _ => throw .unmatchedClosing

/-- A text in which matches are looked for. -/
def subject (text : String) : Subject := .ofText text isWordByte

end Brainfuck.Regex.Traditional
