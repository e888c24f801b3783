import Brainfuck.Text.CharacterClass
import Brainfuck.Text.NamedClass
import Brainfuck.Text.Regex
import Brainfuck.Text.Regex.Fault
/-!
# The notation of regular expressions

Reads expressions as users write them: `a|b`, groups, counted repetitions, classes with ranges and set
operations, escapes, and flags such as `(?i)`. What cannot be read is a `NotationError`.
-/

namespace Brainfuck.Regex

/-- The flags in force. -/
structure Flags where
  ignoreCase : Bool
  multiLine : Bool
  dotAll : Bool
  extended : Bool
deriving DecidableEq

/-- Any of the characters of a text. -/
def anyOf (text : String) (c : Char) : Bool := text.toList.contains c

/-- A set of characters, closed under change of case if case is ignored. -/
def Flags.fold (flags : Flags) (accepts : Char → Bool) : Char → Bool :=
  if flags.ignoreCase then fun c => accepts c || (Text.caseVariants c).any accepts else accepts

/-- An expression in the course of reading: its text, and how far it has been read. -/
structure Cursor where
  chars : Array Char
  position : Nat
  extended : Bool

namespace Cursor

def peek? (c : Cursor) : Option Char := c.chars[c.position]?

def atEnd (c : Cursor) : Bool := c.chars.size ≤ c.position

def skip (c : Cursor) (n : Nat) : Cursor := { c with position := c.position + n }

/-- Does the text go on with the given one? -/
def startsWith (c : Cursor) (text : String) : Bool :=
  (c.chars.extract c.position (c.position + text.length)).toList = text.toList

/-- The span from a position to here. -/
def since (c : Cursor) (first : Nat) : Span := ⟨first, c.position⟩

/-- The span of the next character. -/
def span (c : Cursor) : Span := ⟨c.position, c.position + 1⟩

def fail {α : Type} (fault : Fault) (span : Span) : Except NotationError α := .error ⟨fault, span, none⟩

/-- Where blanks and comments mean nothing, goes behind them. -/
def skipBlanks (c : Cursor) : Cursor :=
  if c.extended then
    let step (inComment : Bool) (x : Char) : Option Bool :=
      if inComment then some (x != '\n')
      else if x.isWhitespace then some false
      else if x = '#' then some true
      else none
    let rec go : List Char → Bool → Nat → Nat
      | [], _, n => n
      | x :: rest, inComment, n =>
        match step inComment x with
        | some inComment => go rest inComment (n + 1)
        | none => n
    c.skip (go (c.chars.toList.drop c.position) false 0)
  else c

/-- Goes on by one character, and behind blanks. -/
def next (c : Cursor) : Cursor := (c.skip 1).skipBlanks

/-- The characters from here on that satisfy a condition, and what is behind them. -/
def takeWhile (c : Cursor) (accepts : Char → Bool) : List Char × Cursor :=
  let taken := (c.chars.toList.drop c.position).takeWhile accepts
  (taken, c.skip taken.length)

end Cursor

/-! ## Escapes -/

/-- What stands for itself, without parts. -/
inductive Atom where
  | char (c : Char)
  | set (accepts : Char → Bool)
  | assertion (a : Assertion)

def hexValue? (c : Char) : Option Nat :=
  if c.isDigit then some (c.toNat - 48)
  else if 'a' ≤ c && c ≤ 'f' then some (c.toNat - 87)
  else if 'A' ≤ c && c ≤ 'F' then some (c.toNat - 55)
  else none

/-- The character with a number in hexadecimal digits. -/
def hexChar? (digits : List Char) : Option Char :=
  let n := digits.foldl (fun n c => n * 16 + (hexValue? c).getD 0) 0
  if n.isValidChar then some (Char.ofNat n) else none

/-- Reads the digits of a hexadecimal escape. -/
def readHex (c : Cursor) (digits : Nat) : Except NotationError (Atom × Cursor) :=
  if c.atEnd then Cursor.fail .escapeAtEnd (c.since c.position)
  else if c.peek? = some '\x7b' then
    let (read, after) := (c.skip 1).takeWhile (· ≠ '\x7d')
    match read.findIdx? fun d => (hexValue? d).isNone with
    | some i => Cursor.fail .hexDigit ((c.skip (i + 1)).span)
    | none =>
      if after.atEnd then Cursor.fail .escapeAtEnd (after.since c.position)
      else if read.isEmpty then Cursor.fail .hexEmpty ((after.skip 1).since c.position)
      else
        match hexChar? read with
        | none => Cursor.fail .hexInvalid (after.since (c.position + 1))
        | some x => .ok (.char x, after.skip 1)
  else
    let available := (c.chars.toList.drop c.position).take digits
    match available.findIdx? fun d => (hexValue? d).isNone with
    | some i => Cursor.fail .hexDigit ((c.skip i).span)
    | none =>
      let after := c.skip available.length
      if available.length < digits then Cursor.fail .escapeAtEnd (after.since after.position)
      else
        match hexChar? available with
        | none => Cursor.fail .hexInvalid (after.since c.position)
        | some x => .ok (.char x, after)

/-- The sets that a named property stands for. -/
def property? (name : String) : Option (Char → Bool) :=
  match name with
  | "L" | "Letter" | "Alphabetic" => some fun c => Text.isWordChar c && !Text.isDigitChar c && c != '_'
  | "Lu" | "Uppercase" => some Char.isUpper
  | "Ll" | "Lowercase" => some Char.isLower
  | "N" | "Nd" => some Text.isDigitChar
  | "P" | "Punctuation" => some (anyOf "!\"#%&'()*,-./:;?@[\\]_\x7b\x7d")
  | "S" | "Symbol" => some fun c => anyOf "$+<=>^|~" c || c.toNat = 96
  | "Z" | "Zs" => some fun c => c = ' ' || c.toNat = 0xA0
  | _ => none

/-- Reads the name of a property, which starts at `first`. -/
def readProperty (c : Cursor) (first : Nat) (negated : Bool) : Except NotationError (Atom × Cursor) := do
  let (name, after) ←
    match c.peek? with
    | none => Cursor.fail .escapeAtEnd (c.since c.position)
    | some '\x7b' =>
      let (name, after) := (c.skip 1).takeWhile (· ≠ '\x7d')
      if after.atEnd then Cursor.fail .escapeAtEnd (after.since after.position)
      else pure (String.ofList name, after.skip 1)
    | some '\\' => Cursor.fail .propertyInvalid c.span
    | some x => pure (String.singleton x, c.skip 1)
  match property? name with
  | none => Cursor.fail .propertyUnknown (after.since first)
  | some accepts => return (.set fun x => accepts x != negated, after)

/-- The sets that letters behind a backslash stand for. -/
def classOf? (blank : Char → Bool) : Char → Option (Char → Bool)
  | 'd' => some Text.isDigitChar
  | 'D' => some fun c => !Text.isDigitChar c
  | 's' => some blank
  | 'S' => some fun c => !blank c
  | 'w' => some Text.isWordChar
  | 'W' => some fun c => !Text.isWordChar c
  | _ => none

def controlOf? : Char → Option Char
  | 'a' => some '\x07'
  | 'f' => some '\x0c'
  | 't' => some '\t'
  | 'n' => some '\n'
  | 'r' => some '\r'
  | 'v' => some '\x0b'
  | _ => none

def assertionOf? : Char → Option Assertion
  | 'A' => some .textStart
  | 'z' => some .textEnd
  | 'B' => some .notBoundary
  | '<' => some .wordStart
  | '>' => some .wordEnd
  | _ => none

def boundaryOf? : String → Option Assertion
  | "start" => some .wordStart
  | "end" => some .wordEnd
  | "start-half" => some .wordStartHalf
  | "end-half" => some .wordEndHalf
  | _ => none

/-- Reads what may stand in braces behind a word boundary that starts at `first`. -/
def readBoundary (c : Cursor) (first : Nat) : Except NotationError (Atom × Cursor) :=
  let inName (x : Char) : Bool := x.isAlpha || x = '-'
  match c.peek? with
  | some '\x7b' =>
    let inside := c.next
    match inside.peek? with
    | none => Cursor.fail .boundaryAtEnd (inside.since first)
    | some x =>
      if !inName x then .ok (.assertion .boundary, c)
      else
        let (name, after) := inside.takeWhile inName
        if after.peek? ≠ some '\x7d' then Cursor.fail .boundaryUnclosed (after.since c.position)
        else
          match boundaryOf? (String.ofList name) with
          | some a => .ok (.assertion a, after.skip 1)
          | none => Cursor.fail .boundaryUnknown (after.since inside.position)
  | _ => .ok (.assertion .boundary, c)

def isBlankChar (c : Char) : Bool :=
  c.isWhitespace || c = '\x0b' || c = '\x0c' ||
    [0x85, 0xA0, 0x1680, 0x2028, 0x2029, 0x202F, 0x205F, 0x3000].contains c.toNat ||
    (0x2000 ≤ c.toNat && c.toNat ≤ 0x200A)

/-- Reads an escape, from its backslash on. -/
def readEscape (c : Cursor) : Except NotationError (Atom × Cursor) :=
  let first := c.position
  let c := c.skip 1
  match c.peek? with
  | none => Cursor.fail .escapeAtEnd (c.since first)
  | some x =>
    if x.isDigit then Cursor.fail .backReference ((c.skip 1).since first)
    else if x = 'x' then readHex c.next 2
    else if x = 'u' then readHex c.next 4
    else if x = 'U' then readHex c.next 8
    else if x = 'p' || x = 'P' then readProperty c.next first (x = 'P')
    else
      match classOf? isBlankChar x, controlOf? x, assertionOf? x with
      | some accepts, _, _ => .ok (.set accepts, c.skip 1)
      | _, some control, _ => .ok (.char control, c.skip 1)
      | _, _, some a => .ok (.assertion a, c.skip 1)
      | none, none, none =>
        if x = 'b' then readBoundary (c.skip 1) first
        else if x.toNat < 128 && !x.isAlpha then .ok (.char x, c.skip 1)
        else Cursor.fail .escapeUnknown ((c.skip 1).since first)

/-! ## Classes -/

inductive SetOperation where
  | intersection
  | difference
  | symmetricDifference

def SetOperation.apply (o : SetOperation) (a b : Char → Bool) (c : Char) : Bool :=
  match o with
  | intersection => a c && b c
  | difference => a c && !b c
  | symmetricDifference => a c != b c

/-- A bracket that is still open: the sets read since its last operation, and what stands in front of
that. -/
structure OpenClass where
  span : Span
  negated : Bool
  left : Option (SetOperation × (Char → Bool))
  items : Char → Bool

namespace OpenClass

def add (k : OpenClass) (accepts : Char → Bool) : OpenClass :=
  { k with items := fun c => k.items c || accepts c }

/-- The set of what has been read. -/
def value (k : OpenClass) (flags : Flags) : Char → Bool :=
  let items := flags.fold k.items
  match k.left with
  | none => items
  | some (o, left) => o.apply left items

def operate (k : OpenClass) (flags : Flags) (o : SetOperation) : OpenClass :=
  { k with left := some (o, k.value flags), items := fun _ => false }

def close (k : OpenClass) (flags : Flags) : Char → Bool :=
  let value := flags.fold (k.value flags)
  fun c => value c != k.negated

end OpenClass

def namedClass? : String → Option (Char → Bool)
  | "ascii" => some fun c => c.toNat < 128
  | "word" => some fun c => c.isAlphanum || c = '_'
  | name => Text.namedClass? name

/-- Reads a named class such as `[:alpha:]`, if there is one. -/
def readNamedClass? (c : Cursor) : Option ((Char → Bool) × Cursor) :=
  if c.startsWith "[:" then
    let c := c.skip 2
    let negated := c.peek? = some '^'
    let c := if negated then c.skip 1 else c
    let (name, after) := c.takeWhile (· ≠ ':')
    if after.startsWith ":]" then
      (namedClass? (String.ofList name)).map fun accepts => (fun x => accepts x != negated, after.skip 2)
    else none
  else none

/-- Opens a class: a caret negates it, and dashes or a bracket at its start stand for themselves. -/
def openClass (c : Cursor) : Except NotationError (OpenClass × Cursor) := do
  let first := c.position
  let c := c.next
  let negated := c.peek? = some '^'
  let c := if negated then c.next else c
  if c.atEnd then Cursor.fail .classUnclosed (c.since first)
  let (dashes, after) := c.takeWhile (· = '-')
  if after.atEnd then Cursor.fail .classUnclosed ⟨first, first⟩
  if dashes.isEmpty && after.peek? = some ']' then
    let after := after.next
    if after.atEnd then Cursor.fail .classUnclosed (after.since first)
    return (⟨after.since first, negated, none, (· = ']')⟩, after)
  return (⟨after.since first, negated, none, fun x => x = '-' && !dashes.isEmpty⟩, after)

/-- Reads one part of a class. Answers its span as well. -/
def readClassAtom (c : Cursor) : Except NotationError (Atom × Span × Cursor) := do
  match c.peek? with
  | some '\\' =>
    let (atom, after) ← readEscape c
    return (atom, after.since c.position, after)
  | some x => return (.char x, c.span, c.skip 1)
  | none => Cursor.fail .classUnclosed c.span

def classChar (atom : Atom) (span : Span) : Except NotationError Char :=
  match atom with
  | .char c => .ok c
  | _ => Cursor.fail .classRangeBound span

/-- Reads a character, a set or a range of an open class. -/
def readClassItem (c : Cursor) (opened : OpenClass) : Except NotationError (OpenClass × Cursor) := do
  let (atom, span, after) ← readClassAtom c
  let after := after.skipBlanks
  if after.atEnd then Cursor.fail .classUnclosed opened.span
  let behind := after.next.peek?
  if after.peek? ≠ some '-' || behind = some ']' || behind = some '-' then
    match atom with
    | .char x => return (opened.add (· = x), after)
    | .set accepts => return (opened.add accepts, after)
    | .assertion _ => Cursor.fail .classEscape span
  else
    let second := after.next
    if second.atEnd then Cursor.fail .classUnclosed opened.span
    let (last, lastSpan, after) ← readClassAtom second
    let low ← classChar atom span
    let high ← classChar last lastSpan
    if high < low then Cursor.fail .classRange ⟨span.first, lastSpan.last⟩
    return (opened.add fun x => low ≤ x && x ≤ high, after)

/-- Reads a class to its end. `outer` are the brackets around the innermost open one. -/
def readClass (flags : Flags) : Nat → Cursor → OpenClass → List OpenClass →
    Except NotationError ((Char → Bool) × Cursor)
  | 0, _, opened, _ => Cursor.fail .classUnclosed opened.span
  | n + 1, c, opened, outer => do
    let c := c.skipBlanks
    match c.peek? with
    | none => Cursor.fail .classUnclosed opened.span
    | some '[' =>
      match readNamedClass? c with
      | some (accepts, after) => readClass flags n after (opened.add accepts) outer
      | none =>
        let (inner, after) ← openClass c
        readClass flags n after inner (opened :: outer)
    | some ']' =>
      let accepts := opened.close flags
      match outer with
      | [] => return (accepts, c.skip 1)
      | around :: outer => readClass flags n (c.skip 1) (around.add accepts) outer
    | some _ =>
      if c.startsWith "&&" then readClass flags n (c.skip 2) (opened.operate flags .intersection) outer
      else if c.startsWith "--" then readClass flags n (c.skip 2) (opened.operate flags .difference) outer
      else if c.startsWith "~~" then
        readClass flags n (c.skip 2) (opened.operate flags .symmetricDifference) outer
      else
        let (opened, after) ← readClassItem c opened
        readClass flags n after opened outer

/-! ## Repetitions -/

/-- Reads a decimal number. -/
def readDecimal (c : Cursor) : Except NotationError (Option Nat × Cursor) :=
  let c := (c.takeWhile Char.isWhitespace).2
  let (digits, after) := c.takeWhile Char.isDigit
  let n := digits.foldl (fun n d => n * 10 + (d.toNat - 48)) 0
  if 4294967295 < n then Cursor.fail .decimalInvalid (after.since c.position)
  else .ok (if digits.isEmpty then none else some n, (after.takeWhile Char.isWhitespace).2)

/-- Reads counts in braces. -/
def readCounts (c : Cursor) : Except NotationError (Nat × Option Nat × Cursor) := do
  let first := c.position
  let unclosed {α : Type} (c : Cursor) : Except NotationError α := Cursor.fail .countUnclosed (c.since first)
  let inside := c.next
  if inside.atEnd then unclosed inside
  let (least, after) ← readDecimal inside
  if after.atEnd then unclosed after
  let empty : Except NotationError (Nat × Option Nat × Cursor) :=
    let start := (inside.takeWhile Char.isWhitespace).2
    Cursor.fail .countEmpty (start.since start.position)
  let (least, most, after) ←
    if after.peek? = some ',' then do
      let behind := after.next
      if behind.atEnd then unclosed behind
      match least with
      | none => empty
      | some least =>
        if behind.peek? = some '\x7d' then pure (least, none, behind)
        else
          let (most, after) ← readDecimal behind
          match most with
          | none =>
            let start := (behind.takeWhile Char.isWhitespace).2
            Cursor.fail .countEmpty (start.since start.position)
          | some most => pure (least, some most, after)
    else
      match least with
      | none => empty
      | some n => pure (n, some n, after)
  if after.peek? ≠ some '\x7d' then unclosed after
  let after := after.next
  let after := if after.peek? = some '?' then after.skip 1 else after
  if most.any (· < least) then Cursor.fail .countInvalid (after.since first)
  return (least, most, after)

/-! ## Groups -/

inductive FlagItem where
  | minus
  | flag (c : Char)
deriving DecidableEq

/-- Reads flags up to a colon or a closing parenthesis. -/
def readFlags : Nat → Cursor → List (FlagItem × Span) → Except NotationError (List (FlagItem × Span) × Cursor)
  | 0, c, _ => Cursor.fail .flagAtEnd (c.since c.position)
  | n + 1, c, items =>
    match c.peek? with
    | none => Cursor.fail .flagAtEnd (c.since c.position)
    | some x =>
      if x = ':' || x = ')' then
        match items with
        | (.minus, span) :: _ => Cursor.fail .flagDanglingMinus span
        | items => .ok (items.reverse, c)
      else if x = '-' || anyOf "imsUuRx" x then
        let item := if x = '-' then FlagItem.minus else .flag x
        match items.find? (·.1 = item) with
        | some (_, earlier) => .error ⟨if x = '-' then .flagTwoMinuses else .flagTwice, c.span, some earlier⟩
        | none => readFlags n (c.skip 1) ((item, c.span) :: items)
      else Cursor.fail .flagUnknown c.span

/-- The flags as changed by items: those behind a minus are off. -/
def Flags.change (flags : Flags) (items : List (FlagItem × Span)) : Flags :=
  (items.foldl
    (fun (flags, on) (item, _) =>
      match item with
      | .minus => (flags, false)
      | .flag 'i' => ({ flags with ignoreCase := on }, on)
      | .flag 'm' => ({ flags with multiLine := on }, on)
      | .flag 's' => ({ flags with dotAll := on }, on)
      | .flag 'x' => ({ flags with extended := on }, on)
      | .flag _ => (flags, on))
    (flags, true)).1

/-- Reads the name of a group. -/
def readName (c : Cursor) (names : List (String × Span)) :
    Except NotationError (String × Span × Cursor) := do
  let (name, after) := c.takeWhile (· ≠ '>')
  let inName (i : Nat) (x : Char) : Bool :=
    if i = 0 then x = '_' || (Text.isWordChar x && !Text.isDigitChar x)
    else Text.isWordChar x || anyOf "_.[]" x
  match (name.zipIdx).find? fun (x, i) => !inName i x with
  | some (_, i) => Cursor.fail .nameInvalid (c.skip i).span
  | none => pure ()
  if after.atEnd then Cursor.fail .nameAtEnd (after.since after.position)
  if name.isEmpty then Cursor.fail .nameEmpty (c.since c.position)
  let span := after.since c.position
  match names.lookup (String.ofList name) with
  | some earlier => .error ⟨.nameTwice, span, some earlier⟩
  | none => return (String.ofList name, span, after.skip 1)

/-- A group that is still open, with what was read around it. -/
structure OpenGroup where
  span : Span
  index : Option Nat
  flags : Flags
  alternatives : List Regex
  items : List (Option Regex)

/-- An expression read so far: the open groups, the alternatives in front of the current one, and the items
of that, all newest first. An item without expression sets flags. -/
structure Reading where
  cursor : Cursor
  flags : Flags
  groups : List OpenGroup
  alternatives : List Regex
  items : List (Option Regex)
  nextGroup : Nat
  names : List (String × Span)

namespace Reading

def start (text : String) : Reading :=
  { cursor := ⟨text.toList.toArray, 0, false⟩, flags := ⟨false, false, false, false⟩, groups := []
    alternatives := [], items := [], nextGroup := 1, names := [] }

/-- Goes to a place in the text. -/
def goTo (s : Reading) (c : Cursor) : Reading :=
  { s with cursor := { c with extended := s.flags.extended } }

def withFlags (s : Reading) (flags : Flags) : Reading :=
  { s with flags := flags, cursor := { s.cursor with extended := flags.extended } }

def add (s : Reading) (r : Regex) : Reading := { s with items := some r :: s.items }

/-- The expression of the items since the last bar. -/
def branch (s : Reading) : Regex := sequence (s.items.reverse.filterMap id)

/-- The expression of what has been read in the current group. -/
def value (s : Reading) : Regex := oneOf (s.branch :: s.alternatives).reverse

/-- Opens a group. -/
def push (s : Reading) (span : Span) (index : Option Nat) (flags : Flags) (c : Cursor) : Reading :=
  let opened : OpenGroup := ⟨span, index, s.flags, s.alternatives, s.items⟩
  ({ s with groups := opened :: s.groups, alternatives := [], items := [] }.withFlags flags).goTo c

def addAtom (s : Reading) (atom : Atom) : Reading :=
  match atom with
  | .char c => s.add (.char (s.flags.fold (· = c)))
  | .set accepts => s.add (.char (s.flags.fold accepts))
  | .assertion a => s.add (.assertion a)

/-- Reads the opening of a group, or a change of flags. -/
def openGroup (s : Reading) : Except NotationError Reading := do
  let span := s.cursor.span
  let c := s.cursor.next
  match ["?=", "?!", "?<=", "?<!"].find? c.startsWith with
  | some sign => Cursor.fail .lookAround ((c.skip sign.length).since span.first)
  | none =>
    let named := if c.startsWith "?P<" then some 3 else if c.startsWith "?<" then some 2 else none
    match named with
    | some n =>
      let (name, nameSpan, after) ← readName (c.skip n) s.names
      let s := { s with names := (name, nameSpan) :: s.names, nextGroup := s.nextGroup + 1 }
      return s.push span (some (s.nextGroup - 1)) s.flags after
    | none =>
      if c.peek? = some '?' then
        let inside := c.skip 1
        if inside.atEnd then Cursor.fail .groupUnclosed span
        let (items, after) ← readFlags (c.chars.size + 1) inside []
        let flags := s.flags.change items
        if after.peek? = some ')' then
          if items.isEmpty then Cursor.fail .nothingToRepeat (c.since c.position)
          return ({ s with items := none :: s.items }.withFlags flags).goTo (after.skip 1)
        else return s.push span none flags (after.skip 1)
      else
        return { s with nextGroup := s.nextGroup + 1 }.push span (some s.nextGroup) s.flags c

def closeGroup (s : Reading) : Except NotationError Reading :=
  match s.groups with
  | [] => Cursor.fail .groupUnopened s.cursor.span
  | opened :: groups =>
    let value := match opened.index with
      | some index => Regex.group index s.value
      | none => s.value
    let s' := { s with groups := groups, alternatives := opened.alternatives, items := opened.items }
    .ok (((s'.withFlags opened.flags).add value).goTo (s.cursor.skip 1))

/-- Repeats the last item. -/
def repeatLast (s : Reading) (least : Nat) (most : Option Nat) (c : Cursor) : Except NotationError Reading :=
  match s.items with
  | some r :: items => .ok ({ s with items := some (.many r least most) :: items }.goTo c)
  | _ => Cursor.fail .nothingToRepeat (s.cursor.since s.cursor.position)

/-- Is there something to repeat? -/
def isRepeatable (s : Reading) : Bool :=
  match s.items with
  | some _ :: _ => true
  | _ => false

/-- Repeats by a sign, behind which a question mark only says what to prefer. -/
def repeatBy (s : Reading) (least : Nat) (most : Option Nat) : Except NotationError Reading :=
  let c := s.cursor.skip 1
  s.repeatLast least most (if c.peek? = some '?' then c.skip 1 else c)

/-- Reads one part of an expression. -/
def step (s : Reading) (x : Char) : Except NotationError Reading := do
  let c := s.cursor
  match x with
  | '(' => s.openGroup
  | ')' => s.closeGroup
  | '|' => return { s with alternatives := s.branch :: s.alternatives, items := [] }.goTo (c.skip 1)
  | '[' =>
    let (opened, inside) ← openClass c
    let (accepts, after) ← readClass s.flags (2 * c.chars.size + 1) inside opened []
    return (s.add (.char accepts)).goTo after
  | '?' => s.repeatBy 0 (some 1)
  | '*' => s.repeatBy 0 none
  | '+' => s.repeatBy 1 none
  | '\x7b' =>
    if !s.isRepeatable then Cursor.fail .nothingToRepeat (c.since c.position)
    let (least, most, after) ← readCounts c
    s.repeatLast least most after
  | '\\' =>
    let (atom, after) ← readEscape c
    return (s.addAtom atom).goTo after
  | '.' =>
    let dotAll := s.flags.dotAll
    return (s.add (.char fun x => dotAll || x != '\n')).goTo (c.skip 1)
  | '^' => return (s.add (.assertion (if s.flags.multiLine then .lineStart else .textStart))).goTo (c.skip 1)
  | '$' => return (s.add (.assertion (if s.flags.multiLine then .lineEnd else .textEnd))).goTo (c.skip 1)
  | x => return (s.addAtom (.char x)).goTo (c.skip 1)

def run : Nat → Reading → Except NotationError Regex
  | 0, s => .ok s.value
  | n + 1, s => do
    let s := s.goTo s.cursor.skipBlanks
    match s.cursor.peek? with
    | some x => run n (← s.step x)
    | none =>
      match s.groups with
      | [] => return s.value
      | opened :: _ => Cursor.fail .groupUnclosed opened.span

end Reading

/-- Reads an expression. -/
def ofText (text : String) : Except NotationError Regex :=
  Reading.run (text.length + 1) (.start text)

/-- Does an expression match anywhere in a text? -/
def matchesText (r : Regex) (text : String) : Bool := r.isMatch (.ofText text Text.isWordChar)

end Brainfuck.Regex
