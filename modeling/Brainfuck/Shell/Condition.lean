import Brainfuck.FileSystem
import Brainfuck.Shell.Arithmetic
import Brainfuck.Text.Bytes
/-!
# Conditions

What `test` decides about texts, numbers and files. Conditions can be negated, joined and put into
parentheses; a word counts as an operator only where it has its operands.
-/

namespace Brainfuck.Shell.Condition

inductive Fault where
  | unexpectedOperator (text : String)
  | argumentExpected (operator : String)
  | closingExpected
  | illegalNumber (text : String)
deriving DecidableEq

def Fault.message : Fault → String
  | unexpectedOperator text => text ++ ": unexpected operator"
  | argumentExpected operator => operator ++ ": argument expected"
  | closingExpected => "closing paren expected"
  | illegalNumber text => "Illegal number: " ++ text

/-! ## Operators -/

def isUnary (s : String) : Bool :=
  ["-r", "-w", "-x", "-e", "-f", "-d", "-c", "-b", "-p", "-u", "-g", "-k", "-s", "-t", "-z", "-n", "-h", "-L",
    "-O", "-G", "-S"].contains s

def isBinary (s : String) : Bool :=
  ["=", "!=", "<", ">", "-eq", "-ne", "-ge", "-gt", "-le", "-lt", "-nt", "-ot", "-ef"].contains s

/-- What a condition can ask about. -/
structure Facts where
  files : FileSystem
  isTerminal : String → Bool

/-- The value of a decimal number. Blanks may surround it. -/
def number (text : String) : Except Fault Int :=
  let trim (chars : List Char) : List Char := chars.dropWhile Arithmetic.isBlank
  let chars := (trim (trim text.toList).reverse).reverse
  let (negative, digits) := match chars with
    | '-' :: rest => (true, rest)
    | '+' :: rest => (false, rest)
    | rest => (false, rest)
  match if digits.all Char.isDigit then (String.ofList digits).toNat? else none with
  | some n =>
    let value : Int := if negative then -(n : Int) else n
    if Int64.minValue.toInt ≤ value && value ≤ Int64.maxValue.toInt then .ok value
    else .error (.illegalNumber text)
  | none => .error (.illegalNumber text)

def Facts.unary (facts : Facts) (operator operand : String) : Bool :=
  let node : Option Node := (facts.files.find (Text.Bytes.toUnicode operand)).toOption.map (·.2)
  match operator with
  | "-n" => !operand.isEmpty
  | "-z" => operand.isEmpty
  | "-t" => facts.isTerminal operand
  | "-e" | "-r" | "-w" | "-O" | "-G" => node.isSome
  | "-f" =>
    match node with
    | some (.file _ _) => true
    | _ => false
  | "-d" =>
    match node with
    | some .directory => true
    | _ => false
  | "-c" =>
    match node with
    | some (.device _) => true
    | _ => false
  | "-x" =>
    match node with
    | some (.file _ executable) => executable
    | some .directory => true
    | _ => false
  | "-s" =>
    match node with
    | some (.file content _) => content.size != 0
    | some .directory => true
    | _ => false
  | _ => false

def Facts.binary (facts : Facts) (a operator b : String) : Except Fault Bool :=
  let numbers (holds : Int → Int → Bool) : Except Fault Bool := do
    let x ← number a
    let y ← number b
    return holds x y
  let location (path : String) : Option Location :=
    (facts.files.find (Text.Bytes.toUnicode path)).toOption.map (·.1)
  match operator with
  | "=" => .ok (a = b)
  | "!=" => .ok (a != b)
  | "<" => .ok (a < b)
  | ">" => .ok (b < a)
  | "-eq" => numbers (· == ·)
  | "-ne" => numbers (· != ·)
  | "-ge" => numbers (· ≥ ·)
  | "-gt" => numbers (· > ·)
  | "-le" => numbers (· ≤ ·)
  | "-lt" => numbers (· < ·)
  | "-ef" => .ok ((location a).isSome && location a = location b)
  | _ => .ok false

/-! ## Reading -/

/-- Is the first word an operand even though it looks like a unary operator? -/
def isOperand : List String → Bool
  | _ :: next :: _ :: _ => isBinary next
  | [_, _] => false
  | _ => true

inductive Sign where
  | nothing
  | opening
  | close
  | not
  | and
  | or
  | unary
  | binary
  | operand
deriving DecidableEq

/-- What the first of the words is. -/
def signOf (words : List String) : Sign :=
  match words with
  | [] => .nothing
  | w :: rest =>
    if w = "(" then if rest.isEmpty then .operand else .opening
    else if w = ")" then .close
    else if w = "!" then .not
    else if w = "-a" then .and
    else if w = "-o" then .or
    else if isBinary w then .binary
    else if isUnary w then if isOperand words then .operand else .unary
    else .operand

abbrev Answer := Except Fault (Bool × List String)

inductive Goal where
  | disjunction
  | conjunction
  | negation
  | primary

/-- Reads a condition whose first word is the given sign. Answers what is left. -/
def readStep (facts : Facts) (read : Goal → Sign → List String → Answer) : Goal → Sign → List String → Answer
  | .disjunction, sign, words => do
    let (first, rest) ← read .conjunction sign words
    match signOf rest with
    | .or =>
      let (second, rest) ← read .disjunction (signOf rest.tail) rest.tail
      return (first || second, rest)
    | _ => return (first, rest)
  | .conjunction, sign, words => do
    let (first, rest) ← read .negation sign words
    match signOf rest with
    | .and =>
      let (second, rest) ← read .conjunction (signOf rest.tail) rest.tail
      return (first && second, rest)
    | _ => return (first, rest)
  | .negation, sign, words =>
    if sign = .not then do
      let (value, rest) ← read .negation (signOf words.tail) words.tail
      return (!value, rest)
    else read .primary sign words
  | .primary, sign, words =>
    match sign, words with
    | .nothing, _ | _, [] => .ok (false, [])
    | .opening, _ :: rest =>
      match signOf rest with
      | .close => .ok (false, rest.tail)
      | sign => do
        let (value, rest) ← read .disjunction sign rest
        match rest with
        | ")" :: rest => return (value, rest)
        | _ => throw .closingExpected
    | .unary, operator :: operand :: rest => .ok (facts.unary operator operand, rest)
    | .unary, [operator] => .error (.argumentExpected operator)
    | _, a :: rest =>
      match signOf rest, rest with
      | .binary, operator :: b :: rest => do return (← facts.binary a operator b, rest)
      | .binary, [operator] => .error (.argumentExpected operator)
      | _, rest => .ok (!a.isEmpty, rest)

def readGoal (facts : Facts) : Nat → Goal → Sign → List String → Answer
  | 0, _, _, words => .ok (false, words)
  | n + 1, goal, sign, words => readStep facts (readGoal facts n) goal sign words

/-- Does the condition hold? Three or four words have a meaning of their own. Words that are left over make
the one in front of them an operator out of place. -/
def evaluate (facts : Facts) (words : List String) : Except Fault Bool := do
  let general (negated : Bool) (sign : Sign) (words : List String) : Except Fault Bool := do
    let (value, rest) ← readGoal facts (8 * (words.length + 2)) .disjunction sign words
    if rest.isEmpty then return value != negated
    else throw (.unexpectedOperator (words.getD (words.length - rest.length - 1) ""))
  match words with
  | [] => return false
  | [_, operator, _] =>
    if isBinary operator then general false .operand words
    else bracketed general words
  | [_, _, _, _] => bracketed general words
  | words => general false (signOf words) words
where
  bracketed (general : Bool → Sign → List String → Except Fault Bool) (words : List String) :
      Except Fault Bool :=
    match words.head?, words.getLast? with
    | some "(", some ")" =>
      let inner := words.tail.dropLast
      general false (signOf inner) inner
    | some "!", _ => general true (signOf words.tail) words.tail
    | _, _ => general false (signOf words) words

end Brainfuck.Shell.Condition
