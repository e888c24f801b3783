import Brainfuck.Text.Regex.Traditional
import Brainfuck.Utility
/-!
# Utilities for values

Small computations on arguments: parts of paths, number sequences, expressions, and what the environment
holds.
-/

namespace Brainfuck.Utility

/-! ## Paths -/

/-- A path without the slashes at its end. -/
def withoutSlashes (path : String) : String :=
  let chars := (path.toList.reverse.dropWhile (· = '/')).reverse
  if chars.isEmpty && !path.isEmpty then "/" else String.ofList chars

/-- The last name of a path. -/
def baseName (path : String) : String :=
  let path := withoutSlashes path
  if path = "/" then path else ((path.splitOn "/").getLast?).getD path

def baseNames : Utility := ofAct do
  let kinds : List OptionKind := [⟨'a', "multiple", false⟩, ⟨'s', "suffix", true⟩, ⟨'z', "zero", false⟩]
  let strip (ending name : String) : String :=
    if ending != name && name.endsWith ending then (name.dropEnd ending.length).toString else name
  match readOptions kinds true (← Act.arguments) with
  | .error text => Act.misused text 1
  | .ok p =>
    match p.operands with
    | [] => Act.misused "missing operand" 1
    | operands =>
      if p.has 'a' || p.has 's' then
        operands.forM fun path => Act.out (strip ((p.value? 's').getD "") (baseName path) ++ "\n")
      else
        match operands with
        | [path] => Act.out (baseName path ++ "\n")
        | [path, ending] => Act.out (strip ending (baseName path) ++ "\n")
        | _ => Act.misused ("extra operand " ++ quoted (operands.getD 2 "")) 1

/-- The path of the directory that a path leads into. -/
def directoryName (path : String) : String :=
  let path := withoutSlashes path
  match path.splitOn "/" with
  | [] | [_] => if path = "/" then "/" else "."
  | pieces =>
    let lead := withoutSlashes ("/".intercalate pieces.dropLast)
    if lead.isEmpty then "/" else lead

def directoryNames : Utility := ofAct do
  match (← Act.arguments).filter (· != "--") with
  | [] => Act.misused "missing operand" 1
  | paths => paths.forM fun path => Act.out (directoryName path ++ "\n")

/-- The path of a location. -/
def pathOf (loc : Location) : String := Text.Bytes.ofUnicode ("/" ++ "/".intercalate loc)

/-- Writes where paths lead. -/
def resolve (always : Bool) : Utility :=
  withOptions
    [⟨'f', "canonicalize", false⟩, ⟨'e', "canonicalize-existing", false⟩, ⟨'m', "canonicalize-missing", false⟩,
      ⟨'n', "no-newline", false⟩, ⟨'s', "strip", false⟩, ⟨'q', "quiet", false⟩]
    1 fun p => do
    if p.operands.isEmpty then Act.misused "missing operand" 1
    else
      p.operands.forM fun path => do
        let files ← Act.files
        if always || "fem".toList.any p.has then
          let exists_ := (files.find (Text.Bytes.toUnicode path)).map fun _ => ()
          let refuse (e : SystemError) : Act Unit :=
            if always then Act.fail (shown path ++ ": " ++ e.description) 1 else Act.setStatus 1
          match files.locate (Text.Bytes.toUnicode path), exists_ with
          | .error e, _ => refuse e
          | .ok loc, .ok () => Act.out (pathOf loc ++ "\n")
          | .ok loc, .error e =>
            if p.has 'e' then refuse e else Act.out (pathOf loc ++ "\n")
        else Act.setStatus 1

/-- Lists the names in directories. -/
def list : Utility :=
  withOptions
    [⟨'a', "all", false⟩, ⟨'A', "almost-all", false⟩, ⟨'1', "", false⟩, ⟨'d', "directory", false⟩,
      ⟨'l', "", false⟩, ⟨'r', "reverse", false⟩, ⟨'F', "classify", false⟩, ⟨'p', "", false⟩, ⟨'t', "", false⟩,
      ⟨'R', "recursive", false⟩, ⟨'h', "", false⟩, ⟨'C', "", false⟩]
    2 fun p => do
    let files ← Act.files
    let operands := (if p.operands.isEmpty then ["."] else p.operands).mergeSort (· ≤ ·)
    let found ← operands.filterMapM fun path => do
      match files.find (Text.Bytes.toUnicode path) with
      | .ok (loc, node) => return some (path, loc, node)
      | .error e =>
        Act.fail ("cannot access " ++ quoted path ++ ": " ++ e.description) 2
        return none
    let order (names : List String) : List String :=
      let sorted := names.mergeSort (· ≤ ·)
      if p.has 'r' then sorted.reverse else sorted
    let mark (node : Option Node) : String :=
      match node with
      | some .directory => if p.has 'F' || p.has 'p' then "/" else ""
      | some (.file _ true) => if p.has 'F' then "*" else ""
      | _ => ""
    let isListed (entry : String × Location × Node) : Bool :=
      match entry.2.2 with
      | .directory => !p.has 'd'
      | _ => false
    let plain := found.filter (!isListed ·)
    plain.forM fun (path, _, node) => Act.out (path ++ mark (some node) ++ "\n")
    let inner (path : String) (loc : Location) : List (String × Location) :=
      let directories := (files.below loc).filterMap fun (inside, node) =>
        match node with
        | .directory => some (path ++ "/" ++ Text.Bytes.ofUnicode ("/".intercalate inside), loc ++ inside)
        | _ => none
      (path, loc) :: if p.has 'R' then directories.mergeSort fun a b => Location.isAtMost a.2 b.2 else []
    let listed := (found.filter isListed).flatMap fun (path, loc, _) => inner path loc
    listed.zipIdx.forM fun ((path, loc), i) => do
      if p.has 'R' || found.length > 1 || !p.operands.isEmpty && operands.length > 1 then
        Act.out ((if i = 0 && plain.isEmpty then "" else "\n") ++ path ++ ":\n")
      let names := (files.below loc).filterMap fun (inner, _) =>
        match inner with
        | [name] => some name
        | _ => none
      let shown := names.filter fun name => p.has 'a' || p.has 'A' || !name.startsWith "."
      let shown := if p.has 'a' then "." :: ".." :: shown else shown
      (order shown).forM fun name =>
        Act.out (Text.Bytes.ofUnicode name ++ mark (files.node? (loc ++ [name])) ++ "\n")

/-! ## Numbers -/

/-- The numbers from the first to the last. -/
def countFrom (first step last : Int) : Nat → List Int
  | 0 => []
  | n + 1 =>
    if (0 < step && last < first) || (step < 0 && first < last) then []
    else first :: countFrom (first + step) step last n

def integer? (text : String) : Option Int :=
  let digits (chars : List Char) : Option Int :=
    if !chars.isEmpty && chars.all Char.isDigit then (String.ofList chars).toNat?.map Int.ofNat else none
  match text.toList with
  | '-' :: rest => (digits rest).map (-·)
  | '+' :: rest => digits rest
  | chars => digits chars

def sequence : Utility := ofAct do
  let rec options (width : Bool) (separator : String) : List String → Bool × String × List String
    | "-w" :: rest => options true separator rest
    | "-s" :: text :: rest => options width text rest
    | word :: rest =>
      if word.startsWith "-s" then options width (word.drop 2).toString rest
      else (width, separator, word :: rest)
    | [] => (width, separator, [])
  let (width, separator, operands) := options false "\n" (← Act.arguments)
  let bad (text : String) : Act Unit := Act.misused ("invalid floating point argument: " ++ quoted text) 1
  let run (first step last : Int) : Act Unit := do
    if step = 0 then Act.misused ("invalid Zero increment value: " ++ quoted "0") 1
    else
      let bound := ((last - first) / step).toNat + 1
      let texts := (countFrom first step last bound).map toString
      let size := (texts.map (·.length)).max?.getD 0
      let padded := texts.map fun text =>
        if width then
          let zeros := String.ofList (List.replicate (size - text.length) '0')
          if text.startsWith "-" then "-" ++ zeros ++ (text.drop 1).toString else zeros ++ text
        else text
      if !padded.isEmpty then Act.out (separator.intercalate padded ++ "\n")
  match operands, operands.map integer? with
  | [], _ => Act.misused "missing operand" 1
  | _, [some last] => run 1 1 last
  | _, [some first, some last] => run first 1 last
  | _, [some first, some step, some last] => run first step last
  | operands, values =>
    match (operands.zip values).find? fun (_, value) => value.isNone with
    | some (text, _) => bad text
    | none => Act.misused ("extra operand " ++ quoted (operands.getD 3 "")) 1

/-! ## Expressions -/

/-- Why an expression has no value. -/
inductive ExpressionFault where
  | missingArgument (after : String)
  | unexpectedArgument (text : String)
  | missingOperand
  | expectedClosing (after : String)
  | notInteger
  | divisionByZero
  | badPattern (text : String)

def ExpressionFault.message : ExpressionFault → String
  | missingArgument after => "syntax error: missing argument after " ++ quoted after
  | unexpectedArgument text => "syntax error: unexpected argument " ++ quoted text
  | missingOperand => "missing operand"
  | expectedClosing after => "syntax error: expecting ')' after " ++ quoted after
  | notInteger => "non-integer argument"
  | divisionByZero => "division by zero"
  | badPattern text => text

abbrev ExpressionResult := Except ExpressionFault (String × List String)

/-- Is the value empty or zero? -/
def isNull (value : String) : Bool := value.isEmpty || (integer? value).any (· == 0)

def comparison? : String → Option (Ordering → Bool)
  | "=" | "==" => some (· == .eq)
  | "!=" => some (· != .eq)
  | "<" => some (· == .lt)
  | "<=" => some (· != .gt)
  | ">" => some (· == .gt)
  | ">=" => some (· != .lt)
  | _ => none

def calculation? : String → Option (Nat × (Int → Int → Except ExpressionFault Int))
  | "+" => some (4, fun a b => .ok (a + b))
  | "-" => some (4, fun a b => .ok (a - b))
  | "*" => some (5, fun a b => .ok (a * b))
  | "/" => some (5, fun a b => if b = 0 then .error .divisionByZero else .ok (a.tdiv b))
  | "%" => some (5, fun a b => if b = 0 then .error .divisionByZero else .ok (a.tmod b))
  | _ => none

/-- What a pattern matches at the start of a text: its first group, or else how much. -/
def matchStart (text pattern : String) : Except ExpressionFault String :=
  let pattern := if pattern.startsWith "^" then (pattern.drop 1).toString else pattern
  match Regex.Traditional.ofText ⟨false, false⟩ pattern with
  | .error e => .error (.badPattern e.message)
  | .ok r =>
    let subject := Regex.Traditional.subject text
    let hasGroup := (pattern.splitOn "\\(").length > 1
    match r.longestFrom? subject 0 with
    | none => .ok (if hasGroup then "" else "0")
    | some place =>
      if hasGroup then
        match place.group? 1 with
        | some (a, b) => .ok (String.ofList (subject.stretch a b))
        | none => .ok ""
      else .ok (toString place.position)

/-- The value of two operands of an operator of a rank, if it is one. -/
def combine? (rank : Nat) (operator a b : String) : Option (Except ExpressionFault String) :=
  if rank = 1 && operator = "|" then some (.ok (if !isNull a then a else if !isNull b then b else "0"))
  else if rank = 2 && operator = "&" then some (.ok (if isNull a || isNull b then "0" else a))
  else if rank = 3 then
    (comparison? operator).map fun holds =>
      let order := match integer? a, integer? b with
        | some x, some y => compare x y
        | _, _ => compare a b
      .ok (if holds order then "1" else "0")
  else if rank = 6 && operator = ":" then some (matchStart a b)
  else
    match calculation? operator with
    | some (r, apply) =>
      if r = rank then
        some (match integer? a, integer? b with
          | some x, some y => (apply x y).map toString
          | _, _ => .error .notInteger)
      else none
    | none => none

def isOperatorOf (rank : Nat) (operator : String) : Bool := (combine? rank operator "1" "1").isSome

/-- Goes on with operators of a rank behind a first value, from the left. -/
def moreValues (read : Nat → List String → ExpressionResult) (rank : Nat) :
    Nat → String → List String → ExpressionResult
  | 0, value, rest => .ok (value, rest)
  | n + 1, value, rest =>
    match rest with
    | operator :: rest' =>
      if isOperatorOf rank operator then do
        if rest'.isEmpty then throw (.missingArgument operator)
        let (other, rest) ← read (rank + 1) rest'
        match combine? rank operator value other with
        | some result => moreValues read rank n (← result) rest
        | none => return (value, rest)
      else .ok (value, rest)
    | [] => .ok (value, [])

def readValueStep (read : Nat → List String → ExpressionResult) (rank : Nat) (arguments : List String) :
    ExpressionResult :=
  if rank < 7 then do
    let (value, rest) ← read (rank + 1) arguments
    moreValues read rank rest.length value rest
  else
    match arguments with
    | [] => .error .missingOperand
    | "(" :: rest => do
      let (value, rest) ← read 1 rest
      match rest with
      | ")" :: rest => return (value, rest)
      | _ => throw (.expectedClosing value)
    | "length" :: text :: rest => .ok (toString text.length, rest)
    | "match" :: text :: pattern :: rest => (matchStart text pattern).map fun value => (value, rest)
    | "index" :: text :: chars :: rest =>
      let found := text.toList.findIdx? fun c => chars.contains c
      .ok (toString ((found.map (· + 1)).getD 0), rest)
    | "substr" :: text :: position :: length :: rest =>
      match integer? position, integer? length with
      | some p, some l =>
        .ok (if p ≤ 0 || l ≤ 0 then "" else ((text.drop (p.toNat - 1)).take l.toNat).toString, rest)
      | _, _ => .ok ("", rest)
    | ["+"] => .error (.missingArgument "+")
    | "+" :: text :: rest => .ok (text, rest)
    | ")" :: _ => .error (.unexpectedArgument ")")
    | text :: rest => .ok (text, rest)

def readValue : Nat → Nat → List String → ExpressionResult
  | 0, _, _ => .error .missingOperand
  | n + 1, rank, arguments => readValueStep (readValue n) rank arguments

def expression : Utility := ofAct do
  let arguments := match ← Act.arguments with
    | "--" :: rest => rest
    | arguments => arguments
  if arguments.isEmpty then Act.misused "missing operand" 2
  else
    match readValue (8 * (arguments.length + 1)) 1 arguments with
    | .error e => Act.fail e.message 2
    | .ok (_, text :: _) => Act.fail (ExpressionFault.unexpectedArgument text).message 2
    | .ok (value, []) =>
      Act.out (value ++ "\n")
      if isNull value then Act.setStatus 1

/-! ## The environment -/

def showEnvironment : Utility := ofAct do
  let env := (← get).call.environment
  match ← Act.arguments with
  | [] => env.entries.forM fun (name, value) => Act.out (name ++ "=" ++ value ++ "\n")
  | names =>
    names.forM fun name =>
      match env.value? name with
      | some value => Act.out (value ++ "\n")
      | none => Act.setStatus 1

/-- Answers a fixed line. -/
def constant (line : String) : Utility := ofAct (Act.out (line ++ "\n"))

def systemName : Utility := ofAct do
  let arguments ← Act.arguments
  match arguments with
  | [] | ["-s"] => Act.out "Linux\n"
  | ["-m"] => Act.out "x86_64\n"
  | _ => Act.out "Linux\n"

/-- Waits, which takes no time here. -/
def sleep : Utility := ofAct do
  let isInterval (text : String) : Bool :=
    let digits := text.toList.takeWhile fun c => c.isDigit || c == '.'
    !digits.isEmpty && ["", "s", "m", "h", "d"].contains (String.ofList (text.toList.drop digits.length))
  match ← Act.arguments with
  | [] => Act.misused "missing operand" 1
  | arguments =>
    match arguments.find? (!isInterval ·) with
    | some text => Act.misused ("invalid time interval " ++ quoted text) 1
    | none => return ()

/-- Does nothing and ends with a status. -/
def silent (status : Nat) : Utility := ofAct (Act.setStatus status)

end Brainfuck.Utility
