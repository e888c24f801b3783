import Brainfuck.Shell.Arithmetic
/-!
# Formatted texts

Texts with escapes, and formats with conversions that stand for arguments.
-/

namespace Brainfuck.Shell.Format

/-! ## Escapes -/

/-- The character of a letter behind a backslash. -/
def escaped? : Char → Option Char
  | 'a' => some '\x07'
  | 'b' => some '\x08'
  | 'e' => some '\x1b'
  | 'f' => some '\x0c'
  | 'n' => some '\n'
  | 'r' => some '\r'
  | 't' => some '\t'
  | 'v' => some '\x0b'
  | '\\' => some '\\'
  | _ => none

def isOctal (c : Char) : Bool := '0' ≤ c && c ≤ '7'

/-- The octal number at the front of a text, of so many digits at most, and what follows it. -/
def octal (most : Nat) (chars : List Char) : Char × List Char :=
  let digits := (chars.take most).takeWhile isOctal
  (Char.ofNat (digits.foldl (fun n c => n * 8 + (c.toNat - 48)) 0 % 256), chars.drop digits.length)

/-- The text that a text with escapes stands for, and whether it asks to stop. Up to three octal digits may
follow a zero. -/
def unescape : Nat → List Char → List Char × Bool
  | 0, chars => (chars, false)
  | _, [] => ([], false)
  | n + 1, '\\' :: c :: rest =>
    let go (c : Char) (rest : List Char) : List Char × Bool :=
      let (text, stops) := unescape n rest
      (c :: text, stops)
    if c = 'c' then ([], true)
    else if c = '0' then
      let (c, rest) := octal 3 rest
      go c rest
    else if isOctal c then
      let (c, rest) := octal 3 (c :: rest)
      go c rest
    else
      match escaped? c with
      | some c => go c rest
      | none =>
        let (text, stops) := unescape n rest
        ('\\' :: c :: text, stops)
  | n + 1, c :: rest =>
    let (text, stops) := unescape n rest
    (c :: text, stops)

def unescaped (text : String) : String × Bool :=
  let (chars, stops) := unescape text.length text.toList
  (String.ofList chars, stops)

/-! ## Formats -/

/-- A width or a precision: a number, or an argument. -/
inductive Count where
  | fixed (n : Nat)
  | argument
deriving DecidableEq

structure Conversion where
  flags : List Char
  width : Option Count
  precision : Option Count
  letter : Char
deriving DecidableEq

inductive Part where
  | text (s : String)
  | conversion (c : Conversion)
  | invalid (directive : String)
  | unfinished
deriving DecidableEq

def readCount (chars : List Char) : Option Count × List Char :=
  match chars with
  | '*' :: rest => (some .argument, rest)
  | chars =>
    let digits := chars.takeWhile Char.isDigit
    if digits.isEmpty then (none, chars)
    else (some (.fixed ((String.ofList digits).toNat?.getD 0)), chars.drop digits.length)

/-- Reads a conversion behind its percent sign. -/
def readConversion (chars : List Char) : Part × List Char :=
  let flags := chars.takeWhile fun c => "#-+ 0".contains c
  let (width, rest) := readCount (chars.drop flags.length)
  let (precision, rest) := match rest with
    | '.' :: rest =>
      let (count, rest) := readCount rest
      (some (count.getD (.fixed 0)), rest)
    | rest => (none, rest)
  match rest with
  | [] => (.unfinished, [])
  | letter :: after =>
    if "bcsdiouxXeEfFgG".contains letter then (.conversion ⟨flags, width, precision, letter⟩, after)
    else
      let directive := chars.take (chars.length - rest.length) ++ [letter]
      (.invalid ("%" ++ String.ofList directive), after)

/-- The parts of a format. -/
def parts : Nat → List Char → List Part
  | 0, _ => []
  | _, [] => []
  | n + 1, '%' :: '%' :: rest => .text "%" :: parts n rest
  | n + 1, '%' :: rest =>
    let (part, rest) := readConversion rest
    part :: parts n rest
  | n + 1, '\\' :: c :: rest =>
    if isOctal c then
      let (c, rest) := octal 3 (c :: rest)
      .text (String.singleton c) :: parts n rest
    else
      match escaped? c with
      | some c => .text (String.singleton c) :: parts n rest
      | none => .text (String.ofList ['\\', c]) :: parts n rest
  | n + 1, c :: rest => .text (String.singleton c) :: parts n rest

def ofText (format : String) : List Part := parts format.length format.toList

/-! ## Writing -/

/-- What is wrong with an argument or a format. -/
inductive Fault where
  | expectedNumber (text : String)
  | trailingText (text : String)
  | outOfRange (text : String)
  | invalidDirective (directive : String)
  | missingLetter
deriving DecidableEq

def Fault.message : Fault → String
  | expectedNumber text => text ++ ": expected numeric value"
  | trailingText text => text ++ ": not completely converted"
  | outOfRange text => text ++ ": Numerical result out of range"
  | invalidDirective directive => directive ++ ": invalid directive"
  | missingLetter => "missing format character"

/-- A format while it is written. Faults are kept newest first; `stopped` ends the writing, and `broken` says
that the format itself is at fault. -/
structure Writing where
  output : String
  arguments : List String
  faults : List Fault
  stopped : Bool
  broken : Bool

namespace Writing

def nextArgument (w : Writing) : Option String × Writing :=
  match w.arguments with
  | [] => (none, w)
  | a :: rest => (some a, { w with arguments := rest })

def add (w : Writing) (text : String) : Writing := { w with output := w.output ++ text }

def blame (w : Writing) (f : Fault) : Writing := { w with faults := f :: w.faults }

/-- The value of an argument within some bounds: a number, or the code of the character behind a quote. -/
def number (w : Writing) (low high : Int) (text : Option String) : Int × Writing :=
  match text with
  | none => (0, w)
  | some text =>
    match text.toList with
    | '\x22' :: c :: _ | '\x27' :: c :: _ => (c.toNat, w)
    | chars =>
      let chars := chars.dropWhile Arithmetic.isBlank
      let (negative, digits) := match chars with
        | '-' :: rest => (true, rest)
        | '+' :: rest => (false, rest)
        | rest => (false, rest)
      let (value, rest) := Arithmetic.readNumber digits
      let value : Int := if negative then -(value : Int) else value
      if rest.length = digits.length then (0, if text.isEmpty then w else w.blame (.expectedNumber text))
      else if value < low then (low, w.blame (.outOfRange text))
      else if high < value then (high, w.blame (.outOfRange text))
      else if rest.isEmpty then (value, w)
      else (value, w.blame (.trailingText text))

/-- The value of a count. -/
def count (w : Writing) (c : Option Count) : Option Int × Writing :=
  match c with
  | none => (none, w)
  | some (.fixed n) => (some n, w)
  | some .argument =>
    let (a, w) := w.nextArgument
    let (n, w) := w.number Int64.minValue.toInt Int64.maxValue.toInt a
    (some n, w)

end Writing

/-- Fills a text up to a width. -/
def pad (left : Bool) (fill : Char) (width : Nat) (text : String) : String :=
  let filling := String.ofList (List.replicate (width - text.length) fill)
  if left then text ++ filling else filling ++ text

/-- The digits of a number in a base. -/
def digitsOf (letter : Char) (n : Nat) : String :=
  if letter = 'o' then String.ofList (Nat.toDigits 8 n)
  else if letter = 'x' then String.ofList (Nat.toDigits 16 n)
  else if letter = 'X' then (String.ofList (Nat.toDigits 16 n)).toUpper
  else toString n

/-- A number as it is written by a conversion, before it is filled up: its sign and its digits. -/
def writtenNumber (c : Conversion) (precision : Option Int) (value : Int) : String × String :=
  let signed := c.letter = 'd' || c.letter = 'i'
  let magnitude := if signed then value.natAbs else (value % (UInt64.size : Int)).toNat
  let sign :=
    if signed then
      if value < 0 then "-" else if c.flags.contains '+' then "+" else if c.flags.contains ' ' then " " else ""
    else if c.flags.contains '#' && magnitude != 0 && (c.letter = 'x' || c.letter = 'X') then
      String.ofList ['0', c.letter]
    else ""
  let digits := digitsOf c.letter magnitude
  let digits := if c.letter = 'o' && c.flags.contains '#' && magnitude != 0 then "0" ++ digits else digits
  (sign, pad false '0' ((precision.getD 1).toNat) digits)

/-- Writes one conversion. -/
def Conversion.write (c : Conversion) (w : Writing) : Writing :=
  let (width, w) := w.count c.width
  let (precision, w) := w.count c.precision
  let precision := precision.filter fun p => 0 ≤ p
  let left := c.flags.contains '-' || width.any (· < 0)
  let width := (width.map Int.natAbs).getD 0
  let cutTo (text : String) : String :=
    match precision with
    | some p => (text.take p.toNat).toString
    | none => text
  let (argument, w) := w.nextArgument
  match c.letter with
  | 's' => w.add (pad left ' ' width (cutTo (argument.getD "")))
  | 'c' =>
    let c := ((argument.getD "").toList.head?).getD '\x00'
    w.add (pad left ' ' width (String.singleton c))
  | 'b' =>
    let (text, stops) := unescaped (argument.getD "")
    { w.add (pad left ' ' width (cutTo text)) with stopped := stops }
  | _ =>
    let signed := c.letter = 'd' || c.letter = 'i'
    let (value, w) :=
      if signed then w.number Int64.minValue.toInt Int64.maxValue.toInt argument
      else w.number (1 - (UInt64.size : Int)) ((UInt64.size : Int) - 1) argument
    let (sign, digits) := writtenNumber c precision value
    if c.flags.contains '0' && !left && precision.isNone then
      w.add (sign ++ pad false '0' (width - sign.length) digits)
    else w.add (pad left ' ' width (sign ++ digits))

def Part.write (w : Writing) (p : Part) : Writing :=
  if w.stopped then w
  else
    match p with
    | .text s => w.add s
    | .conversion c => c.write w
    | .invalid directive => { w.blame (.invalidDirective directive) with stopped := true, broken := true }
    | .unfinished => { w.blame .missingLetter with stopped := true, broken := true }

/-- Writes a format again and again until it has used up the arguments. -/
def writeAll (parts : List Part) : Nat → Writing → Writing
  | 0, w => w
  | n + 1, w =>
    let after := parts.foldl Part.write w
    if after.stopped || after.arguments.isEmpty || after.arguments.length = w.arguments.length then after
    else writeAll parts n after

def write (format : String) (arguments : List String) : Writing :=
  writeAll (ofText format) (arguments.length + 1) ⟨"", arguments, [], false, false⟩

end Brainfuck.Shell.Format
