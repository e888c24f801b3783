import Brainfuck.Shell.Builtin
import Brainfuck.Shell.Signal
import Brainfuck.Text.Bytes
/-!
# Builtins for control

Leaving loops, functions and the shell; running texts; signals and children; the current directory.
-/

namespace Brainfuck.Shell.Builtin

/-! ## Leaving -/

def exit : Builtin := fun _ arguments => do
  match arguments with
  | [] =>
    let p ← get
    throw (.exited (p.heldStatus.getD p.status))
  | text :: _ => throw (.exited ((← number text) % 256))

def leaveFunction : Builtin := fun _ arguments => do
  match arguments with
  | [] =>
    let status := (← get).status
    throw (.returned status)
  | text :: _ => throw (.returned (← number text))

/-- Leaves as many loops as there are, at most, or goes on with the last of them. -/
def leavingLoops (how : Nat → Interruption) : Builtin := fun _ arguments => do
  let n ← match arguments with
    | [] => pure 1
    | text :: _ => number text
  if n = 0 then Run.fail ("Illegal number: " ++ arguments.headD "")
  else
    let n := min n (← get).loops
    if n = 0 then return 0 else throw (how n)

/-! ## Texts -/

def eval : Builtin := fun e arguments => do
  let ran ← e.runText (← get).tested (" ".intercalate arguments)
  let status := (← get).status
  return if ran then status else 0

/-! ## Signals -/

def trap : Builtin := fun _ arguments => do
  let (_, operands) ← readOptions [] [] arguments
  match operands with
  | [] =>
    let traps := (← get).traps
    let lines := (List.range (Signal.names.length + 1)).filterMap fun n => do
      let name ← Signal.name? n
      let action ← traps.lookup name
      return "trap -- " ++ inQuotes action ++ " " ++ name ++ "\n"
    tell (String.join lines)
  | action :: rest =>
    let isReset := rest.isEmpty || (!action.isEmpty && action.all Char.isDigit)
    let names := if isReset && rest.isEmpty then operands else if isReset then operands else rest
    let action := if isReset || action = "-" then none else some action
    names.foldlM
      (fun status text => do
        match (Signal.ofText? text).bind Signal.name? with
        | none =>
          note ("trap: " ++ text ++ ": bad trap\n")
          return 1
        | some name =>
          modify fun p =>
            let others := p.traps.filter (·.1 != name)
            { p with traps := (action.toList.map fun a => (name, a)) ++ others }
          return status)
      0

/-- Sends a signal to a process. Answers whether there is one. -/
def sendSignal (signal target : Nat) : Run Bool := do
  let p ← get
  if target = p.number then
    let name := (Signal.name? signal).getD ""
    if signal != 0 && !p.ignored.contains name then
      match p.traps.lookup name with
      | some action =>
        if !action.isEmpty then set { p with pending := p.pending ++ [action] }
      | none => if !Signal.isHarmless signal then throw (.killed signal)
    return true
  else
    match p.children.find? (·.number == target) with
    | none => return signal = 0 && target = p.parent
    | some child =>
      if child.awaited then return false
      else
        if !Signal.isHarmless signal then
          let children := p.children.map fun c =>
            if c.number == target then { c with ending := .killed signal } else c
          set { p with children := children }
        return true

def killUsage : String :=
  "Usage: kill [-s sigspec | -signum | -sigspec] [pid | job]... or\nkill -l [exitstatus]"

def sendSignals (signal : Nat) (targets : List String) : Run Nat := do
  if targets.isEmpty then Run.fail killUsage
  else
    targets.foldlM
      (fun status text => do
        let jobs := (← get).children.length
        let isThere ←
          match text.toList with
          | '%' :: job =>
            match (String.ofList job).toNat? with
            | some n => if 0 < n && n ≤ jobs then pure false else Run.fail ("No such job: " ++ text)
            | none => Run.fail ("No such job: " ++ text)
          | '-' :: group => do
            let _ ← number (String.ofList group)
            pure false
          | _ => do sendSignal signal (← number text)
        if isThere then return status
        else
          Run.complain "No such process\n"
          return 1)
      0

def listSignals (operands : List String) : Run Nat := do
  match operands with
  | [] => tell ("0\n" ++ String.join (Signal.names.map (· ++ "\n")))
  | text :: _ =>
    let n ← number text
    match (if n = 0 then none else Signal.name? (if 128 < n then n - 128 else n)) with
    | some name => tell (name ++ "\n")
    | none => Run.fail ("invalid signal number or exit status: " ++ text)

def kill : Builtin := fun _ arguments => do
  match arguments with
  | [] => Run.fail killUsage
  | first :: rest =>
    match (first.dropPrefix? "-").bind fun text => Signal.ofText? text.toString with
    | some signal => sendSignals signal rest
    | none =>
      let (options, operands) ← readOptions ['l'] ['s'] arguments
      if options.any (·.1 == 'l') then listSignals operands
      else
        match options.getLast? with
        | none => sendSignals 15 operands
        | some (_, text) =>
          match Signal.ofText? text with
          | some signal => sendSignals signal operands
          | none => Run.fail ("invalid signal number or name: " ++ text)

/-! ## Children -/

/-- Waits for one child. Answers its status. -/
def awaitChild (target : Nat) : Run Nat := do
  let p ← get
  match p.children.find? (·.number == target) with
  | none => return 127
  | some child =>
    let epitaph := match child.ending with
      | .killed signal => Signal.epitaph signal
      | .exited _ => ""
    if !child.awaited && !epitaph.isEmpty then note (epitaph ++ "\n")
    modify fun p =>
      { p with
        children := p.children.map fun c => if c.number == target then { c with awaited := true } else c }
    return child.ending.status

def wait : Builtin := fun _ arguments => do
  match arguments with
  | [] =>
    modify fun p => { p with children := p.children.map fun c => { c with awaited := true } }
    return 0
  | targets =>
    targets.foldlM
      (fun _ text => do
        match text.toList with
        | '%' :: job =>
          let children := (← get).children.reverse
          match (String.ofList job).toNat?.bind (fun n => children[n - 1]?) with
          | some child => awaitChild child.number
          | none => Run.fail ("No such job: " ++ text)
        | _ => awaitChild (← number text))
      0

/-- No child is ever stopped, so there is none to go on with. -/
def resume : Builtin := fun _ _ => Run.fail "No current job"

/-! ## Places -/

def pathOfCurrent : Run String := do
  return Text.Bytes.ofUnicode ("/" ++ "/".intercalate (← get).world.files.current)

def showDirectory : Builtin := fun _ arguments => do
  let _ ← readOptions ['L', 'P'] [] arguments
  tell ((← pathOfCurrent) ++ "\n")

/-- The directory that a path leads to. -/
def directoryAt? (path : String) : Run (Option Location) := do
  let files := (← get).world.files
  return match files.find (Text.Bytes.toUnicode path) with
    | .ok (loc, .directory) => some loc
    | _ => none

/-- Makes a directory the current one. The variables `PWD` and `OLDPWD` follow. -/
def enterDirectory (loc : Location) : Run Unit := do
  let before ← pathOfCurrent
  modify fun p =>
    { p with
      world := { p.world with files := { p.world.files with current := loc } }
      located := p.located.map fun entry => (entry.1, true) }
  let keep (name value : String) : Run Unit := do
    Run.assign name value
    let v ← Run.entry? name
    v.forM fun v => Run.setVariable name { v with exported := true }
  keep "OLDPWD" before
  keep "PWD" (← pathOfCurrent)

/-- The places where a directory is looked for, and whether it is then named. -/
def directoryCandidates (path : String) : Run (List (String × Bool)) := do
  if path.startsWith "/" || path = "." || path = ".." || path.startsWith "./" || path.startsWith "../" then
    return [(path, false)]
  else
    match ← Run.value? "CDPATH" with
    | none => return [(path, false)]
    | some search =>
      let above := (search.splitOn ":").map fun directory =>
        if directory.isEmpty then (path, false) else (directory ++ "/" ++ path, true)
      return above ++ [(path, false)]

def changeDirectory : Builtin := fun _ arguments => do
  let (_, operands) ← readOptions ['L', 'P'] [] arguments
  let (path, isBack) ← match operands with
    | [] => pure ((← Run.valueD "HOME" ""), false)
    | "-" :: _ => pure ((← Run.valueD "OLDPWD" ""), true)
    | path :: _ => pure (path, false)
  if path.isEmpty then
    if isBack then tell ((← pathOfCurrent) ++ "\n") else return 0
  else
    let found ← (← directoryCandidates path).filterMapM fun (candidate, isNamed) => do
      return (← directoryAt? candidate).map fun loc => (loc, isNamed)
    match found with
    | [] => Run.fail ("can't cd to " ++ path)
    | (loc, isNamed) :: _ =>
      enterDirectory loc
      if isBack || isNamed then tell ((← pathOfCurrent) ++ "\n") else return 0

/-! ## Settings of the process -/

/-- A number in octal digits. -/
def octal (width n : Nat) : String :=
  let digits := String.ofList (Nat.toDigits 8 n)
  String.ofList (List.replicate (width - digits.length) '0') ++ digits

/-- The rights that some letters stand for. -/
def rightsOf? (letters : List Char) : Option Nat :=
  letters.foldlM
    (fun n c =>
      match c with
      | 'r' => some (n ||| 4)
      | 'w' => some (n ||| 2)
      | 'x' => some (n ||| 1)
      | _ => none)
    0

/-- A mask after one change of what it leaves: for whom, a sign, and rights. -/
def changeMask? (mask : Nat) (change : String) : Option Nat := do
  let whom := change.toList.takeWhile fun c => c == 'u' || c == 'g' || c == 'o' || c == 'a'
  let sign ← (change.toList.drop whom.length).head?
  let rights ← rightsOf? (change.toList.drop (whom.length + 1))
  let whom := if whom.isEmpty || whom.contains 'a' then ['u', 'g', 'o'] else whom
  let spread (n : Nat) : Nat :=
    (if whom.contains 'u' then n * 64 else 0) + (if whom.contains 'g' then n * 8 else 0)
      + (if whom.contains 'o' then n else 0)
  let left := 511 - mask
  let kept := left - (left &&& spread 7)
  match sign with
  | '+' => some (511 - (left ||| spread rights))
  | '-' => some (511 - (left - (left &&& spread rights)))
  | '=' => some (511 - (kept ||| spread rights))
  | _ => none

/-- The rights that a mask leaves, in letters. -/
def maskText (mask : Nat) : String :=
  let rights (shift : Nat) : String :=
    let denied := (mask >>> (3 * shift)) % 8
    String.ofList
      ((if denied < 4 then ['r'] else []) ++ (if denied % 4 < 2 then ['w'] else [])
        ++ (if denied % 2 = 0 then ['x'] else []))
  "u=" ++ rights 2 ++ ",g=" ++ rights 1 ++ ",o=" ++ rights 0

def creationMask : Builtin := fun _ arguments => do
  let (options, operands) ← readOptions ['S'] [] arguments
  let mask := (← get).creationMask
  match operands with
  | [] => tell ((if options.isEmpty then octal 4 mask else maskText mask) ++ "\n")
  | text :: _ =>
    if !text.isEmpty && text.all Char.isDigit then
      if text.all fun c => '0' ≤ c && c ≤ '7' then
        let mask := text.toList.foldl (fun n c => n * 8 + (c.toNat - 48)) 0 % 512
        modify fun p => { p with creationMask := mask }
        return 0
      else Run.fail ("Illegal number: " ++ text)
    else
      match (text.splitOn ",").foldlM changeMask? mask with
      | some mask =>
        modify fun p => { p with creationMask := mask }
        return 0
      | none => Run.fail ("Illegal mode: " ++ text)

/-- Nothing is limited. -/
def limits : Builtin := fun _ arguments =>
  if arguments.any fun a => !a.startsWith "-" then return 0 else tell "unlimited\n"

def times : Builtin := fun _ _ => tell "0m0.000000s 0m0.000000s\n0m0.000000s 0m0.000000s\n"

/-! ## Aliases -/

def defineAliases : Builtin := fun _ arguments => do
  let shown (name value : String) : String := name ++ "=" ++ inQuotes value ++ "\n"
  if arguments.isEmpty then
    tell (String.join ((← get).aliases.map fun (name, value) => shown name value))
  else
    arguments.foldlM
      (fun status text => do
        let name := String.ofList (text.toList.takeWhile (· != '='))
        if name.length < text.length then
          let value := (text.drop (name.length + 1)).toString
          modify fun p => { p with aliases := p.aliases.filter (·.1 != name) ++ [(name, value)] }
          return status
        else
          match (← get).aliases.lookup name with
          | some value =>
            let _ ← tell (shown name value)
            return status
          | none =>
            note ("alias: " ++ name ++ " not found\n")
            return 1)
      0

def removeAliases : Builtin := fun _ arguments => do
  let (options, names) ← readOptions ['a'] [] arguments
  if !options.isEmpty then
    modify fun p => { p with aliases := [] }
    return 0
  else
    names.foldlM
      (fun status name => do
        if ((← get).aliases.lookup name).isSome then
          modify fun p => { p with aliases := p.aliases.filter (·.1 != name) }
          return status
        else
          note ("unalias: " ++ name ++ " not found\n")
          return 1)
      0

end Brainfuck.Shell.Builtin
