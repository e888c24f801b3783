/-!
# Faults in regular expressions

What can be wrong with the notation of an expression, the stretch of the text that it is about, and the message
that shows the text with that stretch underlined.
-/

namespace Brainfuck.Regex

/-- What is wrong with an expression. -/
inductive Fault where
  | classEscape
  | classRange
  | classRangeBound
  | classUnclosed
  | decimalInvalid
  | hexEmpty
  | hexInvalid
  | hexDigit
  | escapeAtEnd
  | escapeUnknown
  | flagDanglingMinus
  | flagTwice
  | flagTwoMinuses
  | flagAtEnd
  | flagUnknown
  | nameTwice
  | nameEmpty
  | nameInvalid
  | nameAtEnd
  | groupUnclosed
  | groupUnopened
  | countInvalid
  | countEmpty
  | countUnclosed
  | nothingToRepeat
  | boundaryUnclosed
  | boundaryUnknown
  | boundaryAtEnd
  | propertyInvalid
  | propertyUnknown
  | backReference
  | lookAround
deriving DecidableEq

def Fault.message : Fault → String
  | classEscape => "invalid escape sequence found in character class"
  | classRange => "invalid character class range, the start must be <= the end"
  | classRangeBound => "invalid range boundary, must be a literal"
  | classUnclosed => "unclosed character class"
  | decimalInvalid => "decimal literal invalid"
  | hexEmpty => "hexadecimal literal empty"
  | hexInvalid => "hexadecimal literal is not a Unicode scalar value"
  | hexDigit => "invalid hexadecimal digit"
  | escapeAtEnd => "incomplete escape sequence, reached end of pattern prematurely"
  | escapeUnknown => "unrecognized escape sequence"
  | flagDanglingMinus => "dangling flag negation operator"
  | flagTwice => "duplicate flag"
  | flagTwoMinuses => "flag negation operator repeated"
  | flagAtEnd => "expected flag but got end of regex"
  | flagUnknown => "unrecognized flag"
  | nameTwice => "duplicate capture group name"
  | nameEmpty => "empty capture group name"
  | nameInvalid => "invalid capture group character"
  | nameAtEnd => "unclosed capture group name"
  | groupUnclosed => "unclosed group"
  | groupUnopened => "unopened group"
  | countInvalid => "invalid repetition count range, the start must be <= the end"
  | countEmpty => "repetition quantifier expects a valid decimal"
  | countUnclosed => "unclosed counted repetition"
  | nothingToRepeat => "repetition operator missing expression"
  | boundaryUnclosed =>
    "special word boundary assertion is either unclosed or contains an invalid character"
  | boundaryUnknown =>
    "unrecognized special word boundary assertion, valid choices are: start, end, start-half or end-half"
  | boundaryAtEnd =>
    "found either the beginning of a special word boundary or a bounded repetition on a \\b with an " ++
      "opening brace, but no closing brace"
  | propertyInvalid => "invalid Unicode character class"
  | propertyUnknown => "Unicode property not found"
  | backReference => "backreferences are not supported"
  | lookAround => "look-around, including look-ahead and look-behind, is not supported"

/-- A stretch of the text of an expression. -/
structure Span where
  first : Nat
  last : Nat
deriving DecidableEq

structure NotationError where
  fault : Fault
  span : Span
  related : Option Span
deriving DecidableEq

namespace NotationError

/-- Blanks with stretches of columns underlined. An empty stretch has one mark. -/
def underline (stretches : List Span) : String :=
  (stretches.foldl
    (fun (column, text) stretch =>
      let width := max 1 (stretch.last - stretch.first)
      let blanks := List.replicate (stretch.first - column) ' '
      (max column stretch.first + width, text ++ String.ofList (blanks ++ List.replicate width '^')))
    (0, "")).2

def spans (e : NotationError) : List Span :=
  (e.span :: e.related.toList).mergeSort fun a b => a.first ≤ b.first

/-- The line and the column of a position, both counted from 0. -/
def lineAndColumn (text : String) (position : Nat) : Nat × Nat :=
  let before := text.toList.take position
  (before.count '\n', (before.reverse.takeWhile (· != '\n')).length)

/-- The lines of a text without their line breaks. -/
def linesOf (text : String) : List String :=
  let lines := (text.splitOn "\n").map fun line => (line.dropSuffix "\r").toString
  if text.endsWith "\n" then lines.dropLast else lines

/-- The lines of an expression, numbered, each with its stretches underlined. -/
def numbered (text : String) (stretches : List (Nat × Span)) : String :=
  let lines := linesOf text
  let width := (toString (if text.endsWith "\n" then lines.length + 1 else lines.length)).length
  let blanks (n : Nat) : String := String.ofList (List.replicate n ' ')
  String.join <| lines.zipIdx.map fun (line, i) =>
    let number := toString (i + 1)
    let here := (stretches.filter (·.1 = i)).map (·.2)
    let marks := if here.isEmpty then "" else blanks (width + 2) ++ underline here ++ "\n"
    blanks (width - number.length) ++ number ++ ": " ++ line ++ "\n" ++ marks

/-- What is shown of an expression that has line breaks: its lines between two dividers, then the stretches
that go over several lines. -/
def severalLines (e : NotationError) (text : String) : String :=
  let divider := String.ofList (List.replicate 79 '~') ++ "\n"
  let ends := e.spans.map fun span => (lineAndColumn text span.first, lineAndColumn text span.last)
  let short := ends.filterMap fun ((line, first), (lastLine, last)) =>
    if line = lastLine then some (line, ⟨first, last⟩) else none
  let long := ends.filterMap fun ((line, first), (lastLine, last)) =>
    if line = lastLine then none
    else some ("on line " ++ toString (line + 1) ++ " (column " ++ toString (first + 1) ++ ") through line " ++
      toString (lastLine + 1) ++ " (column " ++ toString last ++ ")\n")
  divider ++ numbered text short ++ divider ++ String.join long

/-- The text of the expression with what is wrong. -/
def message (e : NotationError) (text : String) : String :=
  let shown :=
    if text.contains '\n' then e.severalLines text
    else "    " ++ text ++ "\n    " ++ underline e.spans ++ "\n"
  "regex parse error:\n" ++ shown ++ "error: " ++ e.fault.message

end NotationError

end Brainfuck.Regex
