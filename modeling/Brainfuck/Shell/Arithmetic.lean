import Brainfuck.Shell.Command
/-!
# Arithmetic of shells

Whole numbers of 64 bits with the operators and the assignments of the shell. An expression is read first and
evaluated afterwards, so that a part that does not count is not evaluated.
-/

namespace Brainfuck.Shell.Arithmetic

inductive Operator where
  | multiply
  | divide
  | remainder
  | add
  | subtract
  | shiftLeft
  | shiftRight
  | less
  | lessOrEqual
  | greater
  | greaterOrEqual
  | equal
  | notEqual
  | bitAnd
  | bitXor
  | bitOr
deriving DecidableEq

inductive Sign where
  | minus
  | notZero
  | complement
deriving DecidableEq

inductive Expression where
  | number (n : Int64)
  | named (name : String)
  | signed (s : Sign) (e : Expression)
  | binary (o : Operator) (a b : Expression)
  | both (a b : Expression)
  | either (a b : Expression)
  | choose (test a b : Expression)
  | assign (name : String) (o : Option Operator) (e : Expression)

/-- Why there is no value. -/
inductive Fault where
  | expected (what : String)
  | divisionByZero
deriving DecidableEq

def Fault.message : Fault → String
  | expected what => "expecting " ++ what
  | divisionByZero => "division by zero"

/-! ## Tokens -/

inductive Token where
  | number (n : Int64)
  | name (s : String)
  | sign (s : String)
  | unknown
deriving DecidableEq

def signs : List String :=
  ["<<=", ">>=", "<<", ">>", "<=", ">=", "==", "!=", "&&", "||", "*=", "/=", "%=", "+=", "-=", "&=", "^=", "|=",
    "<", ">", "=", "!", "&", "|", "^", "~", "*", "/", "%", "+", "-", "(", ")", "?", ":"]

/-- The number with the greatest magnitude that fits. -/
def clamp (n : Nat) : Int64 := if n < 9223372036854775808 then Int64.ofNat n else Int64.maxValue

def digitOf? (base : Nat) (c : Char) : Option Nat :=
  let value :=
    if c.isDigit then c.toNat - 48
    else if c.isLower then c.toNat - 87
    else if c.isUpper then c.toNat - 55
    else base
  if value < base then some value else none

/-- The longest number in a base at the front of a text, and what follows it. -/
def digits (base : Nat) (text : List Char) : Nat × List Char :=
  let chars := text.takeWhile fun c => (digitOf? base c).isSome
  (chars.foldl (fun n c => n * base + (digitOf? base c).getD 0) 0, text.drop chars.length)

/-- Reads a number: in base 16 behind `0x`, in base 8 behind `0`, or else in base 10. -/
def readNumber (text : List Char) : Nat × List Char :=
  match text with
  | '0' :: x :: d :: rest =>
    if (x = 'x' || x = 'X') && (digitOf? 16 d).isSome then digits 16 (d :: rest) else digits 8 text
  | '0' :: _ => digits 8 text
  | text => digits 10 text

def isBlank (c : Char) : Bool := c == ' ' || (9 ≤ c.toNat && c.toNat ≤ 13)

def tokens : Nat → List Char → List Token
  | 0, _ => []
  | _, [] => []
  | n + 1, c :: rest =>
    if isBlank c then tokens n rest
    else if c.isDigit then
      let (value, rest) := readNumber (c :: rest)
      .number (clamp value) :: tokens n rest
    else if isNameStart c then
      let name := (c :: rest).takeWhile isNameChar
      .name (String.ofList name) :: tokens n ((c :: rest).drop name.length)
    else
      match signs.find? fun s => s.toList.isPrefixOf (c :: rest) with
      | some s => .sign s :: tokens n ((c :: rest).drop s.length)
      | none => .unknown :: tokens n rest

/-! ## Reading -/

/-- Operators on two values and how closely they bind. -/
def operator? : String → Option (Operator × Nat)
  | "*" => some (.multiply, 10)
  | "/" => some (.divide, 10)
  | "%" => some (.remainder, 10)
  | "+" => some (.add, 9)
  | "-" => some (.subtract, 9)
  | "<<" => some (.shiftLeft, 8)
  | ">>" => some (.shiftRight, 8)
  | "<" => some (.less, 7)
  | "<=" => some (.lessOrEqual, 7)
  | ">" => some (.greater, 7)
  | ">=" => some (.greaterOrEqual, 7)
  | "==" => some (.equal, 6)
  | "!=" => some (.notEqual, 6)
  | "&" => some (.bitAnd, 5)
  | "^" => some (.bitXor, 4)
  | "|" => some (.bitOr, 3)
  | _ => none

/-- The operator of an assignment. -/
def assignment? : String → Option (Option Operator)
  | "=" => some none
  | "*=" => some (some .multiply)
  | "/=" => some (some .divide)
  | "%=" => some (some .remainder)
  | "+=" => some (some .add)
  | "-=" => some (some .subtract)
  | "<<=" => some (some .shiftLeft)
  | ">>=" => some (some .shiftRight)
  | "&=" => some (some .bitAnd)
  | "^=" => some (some .bitXor)
  | "|=" => some (some .bitOr)
  | _ => none

abbrev Parsed := Except Fault (Expression × List Token)

/-- Which kind of expression is read. The weakest binary operators that it takes have the given rank; rank 2
is for `&&` and rank 1 for `||`. -/
inductive Goal where
  | assignment
  | conditional
  | binary (rank : Nat)
  | primary

/-- Goes on with operators of a rank behind a first value, from the left. -/
def readMore (read : Goal → List Token → Parsed) (rank : Nat) : Nat → Expression → List Token → Parsed
  | 0, e, ts => .ok (e, ts)
  | n + 1, e, ts =>
    match ts with
    | .sign s :: rest =>
      let join? : Option (Expression → Expression → Expression) :=
        if rank = 1 then if s = "||" then some .either else none
        else if rank = 2 then if s = "&&" then some .both else none
        else
          match operator? s with
          | some (o, r) => if r = rank then some (.binary o) else none
          | none => none
      match join? with
      | none => .ok (e, ts)
      | some join => do
        let (other, rest) ← read (.binary (rank + 1)) rest
        readMore read rank n (join e other) rest
    | ts => .ok (e, ts)

def readStep (read : Goal → List Token → Parsed) : Goal → List Token → Parsed
  | .assignment, .name s :: .sign o :: rest =>
    match assignment? o with
    | some o => do
      let (e, rest) ← read .assignment rest
      return (.assign s o e, rest)
    | none => read .conditional (.name s :: .sign o :: rest)
  | .assignment, ts => read .conditional ts
  | .conditional, ts => do
    let (test, rest) ← read (.binary 1) ts
    match rest with
    | .sign "?" :: rest => do
      let (a, rest) ← read .assignment rest
      match rest with
      | .sign ":" :: rest => do
        let (b, rest) ← read .conditional rest
        return (.choose test a b, rest)
      | _ => .error (.expected "':'")
    | rest => .ok (test, rest)
  | .binary rank, ts => do
    if 10 < rank then read .primary ts
    else
      let (first, rest) ← read (.binary (rank + 1)) ts
      readMore read rank rest.length first rest
  | .primary, ts =>
    match ts with
    | .number n :: rest => .ok (.number n, rest)
    | .name s :: rest => .ok (.named s, rest)
    | .sign "(" :: rest => do
      let (e, rest) ← read .assignment rest
      match rest with
      | .sign ")" :: rest => .ok (e, rest)
      | _ => .error (.expected "')'")
    | .sign "+" :: rest => read .primary rest
    | .sign "-" :: rest => (read .primary rest).map fun (e, rest) => (.signed .minus e, rest)
    | .sign "!" :: rest => (read .primary rest).map fun (e, rest) => (.signed .notZero e, rest)
    | .sign "~" :: rest => (read .primary rest).map fun (e, rest) => (.signed .complement e, rest)
    | _ => .error (.expected "primary")

def readGoal : Nat → Goal → List Token → Parsed
  | 0, _, _ => .error (.expected "primary")
  | n + 1, goal, ts => readStep (readGoal n) goal ts

/-- Reads an expression. Between two tokens there are at most as many nested goals as there are kinds. -/
def ofText (text : String) : Except Fault Expression := do
  let ts := tokens text.length text.toList
  let (e, rest) ← readGoal (16 * (ts.length + 1)) .assignment ts
  match rest with
  | [] => return e
  | _ => throw (.expected "EOF")

/-! ## Evaluating -/

def ofBool (b : Bool) : Int64 := if b then 1 else 0

def Operator.apply (o : Operator) (a b : Int64) : Except Fault Int64 :=
  match o with
  | multiply => .ok (a * b)
  | divide => if b = 0 then .error .divisionByZero else .ok (a / b)
  | remainder => if b = 0 then .error .divisionByZero else .ok (a % b)
  | add => .ok (a + b)
  | subtract => .ok (a - b)
  | shiftLeft => .ok (a <<< b)
  | shiftRight => .ok (a >>> b)
  | less => .ok (ofBool (a < b))
  | lessOrEqual => .ok (ofBool (a ≤ b))
  | greater => .ok (ofBool (b < a))
  | greaterOrEqual => .ok (ofBool (b ≤ a))
  | equal => .ok (ofBool (a = b))
  | notEqual => .ok (ofBool (a ≠ b))
  | bitAnd => .ok (a &&& b)
  | bitXor => .ok (a ^^^ b)
  | bitOr => .ok (a ||| b)

def Sign.apply (s : Sign) (a : Int64) : Int64 :=
  match s with
  | minus => -a
  | notZero => ofBool (a = 0)
  | complement => ~~~a

/-- What evaluation needs to know of the variables, and how it fails. -/
structure Variables (m : Type → Type) where
  value : String → m Int64
  assign : String → Int64 → m Unit
  fail : Fault → m Int64

/-- The value of an expression. -/
def evaluate {m : Type → Type} [Monad m] (vars : Variables m) : Expression → m Int64
  | .number n => pure n
  | .named name => vars.value name
  | .signed s e => do return s.apply (← evaluate vars e)
  | .binary o a b => do
    let a ← evaluate vars a
    let b ← evaluate vars b
    match o.apply a b with
    | .ok n => return n
    | .error e => vars.fail e
  | .both a b => do
    let a ← evaluate vars a
    if a = 0 then return 0
    else
      let b ← evaluate vars b
      return ofBool (b ≠ 0)
  | .either a b => do
    let a ← evaluate vars a
    if a ≠ 0 then return 1
    else
      let b ← evaluate vars b
      return ofBool (b ≠ 0)
  | .choose test a b => do
    let t ← evaluate vars test
    if t ≠ 0 then evaluate vars a else evaluate vars b
  | .assign name o e => do
    let n ← evaluate vars e
    let n ←
      match o with
      | none => pure n
      | some o => do
        let old ← vars.value name
        match o.apply old n with
        | .ok n => pure n
        | .error e => vars.fail e
    vars.assign name n
    return n

/-- The value of a variable's text, if it is a number. -/
def valueOfText? (text : String) : Option Int64 :=
  let chars := text.toList.dropWhile isBlank
  let (negative, chars) := match chars with
    | '-' :: rest => (true, rest)
    | '+' :: rest => (false, rest)
    | rest => (false, rest)
  if chars.isEmpty then if (text.toList.all isBlank) then some 0 else none
  else
    let (value, rest) := readNumber chars
    if rest.length = chars.length || !rest.all isBlank then none
    else some (if negative then -(clamp value) else clamp value)

end Brainfuck.Shell.Arithmetic
