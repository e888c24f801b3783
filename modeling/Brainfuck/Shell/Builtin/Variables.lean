import Brainfuck.Shell.Builtin
import Brainfuck.Shell.Arithmetic
/-!
# Builtins for variables

Settings of a shell, its variables and its arguments.
-/

namespace Brainfuck.Shell.Builtin

/-- A name with the value behind its equals sign. -/
def splitAssignment (text : String) : String × Option String :=
  let name := text.toList.takeWhile (· != '=')
  match text.toList.drop name.length with
  | [] => (text, none)
  | _ :: value => (String.ofList name, some (String.ofList value))

/-- The variables in the order of their names. -/
def sortedVariables : Run (List (String × Variable)) := do
  return (← get).bindings.mergeSort fun a b => a.1 ≤ b.1

/-- Lists variables as commands. -/
def listVariables (lead : String) (isListed : Variable → Bool) (onlySet : Bool) : Run Nat := do
  let lines := (← sortedVariables).filterMap fun (name, v) =>
    if !isListed v || (onlySet && v.value.isNone) then none
    else some (lead ++ name ++ ((v.value.map fun value => "=" ++ inQuotes value).getD "") ++ "\n")
  tell (String.join lines)

/-! ## Marks -/

/-- Gives variables a mark, and values where there are some. -/
def marking (command : String) (mark : Variable → Variable) (isMarked : Variable → Bool) : Builtin :=
  fun _ arguments => do
    let (options, operands) ← readOptions ['p'] [] arguments
    if operands.isEmpty || !options.isEmpty then listVariables (command ++ " ") isMarked false
    else
      operands.forM fun operand => do
        let (name, value) := splitAssignment operand
        if !isName name then Run.fail (name ++ ": bad variable name")
        else
          value.forM (Run.assign name)
          let v := (← Run.entry? name).getD ⟨none, false, false⟩
          Run.setVariable name (mark v)
      return 0

def exportVariables : Builtin := marking "export" (fun v => { v with exported := true }) (·.exported)

def fixVariables : Builtin := marking "readonly" (fun v => { v with fixed := true }) (·.fixed)

def unset : Builtin := fun _ arguments => do
  let (options, names) ← readOptions ['v', 'f'] [] arguments
  let functions := (options.getLast?.map (·.1)) = some 'f'
  names.forM fun name => do
    if functions then modify fun p => { p with functions := p.functions.filter (·.1 != name) }
    else if isName name then Run.unassign name
    else Run.fail (name ++ ": bad variable name")
  return 0

/-- Makes variables belong to the function that runs. They keep their values until they get new ones. A dash
stands for the settings of the shell. -/
def makeLocal : Builtin := fun _ arguments => do
  match (← get).frames with
  | [] => Run.fail "not in a function"
  | frame :: outer =>
    let (_, operands) ← readOptions [] [] arguments
    operands.forM fun operand => do
      let (name, value) := splitAssignment operand
      if operand = "-" then
        let flags : Variable := ⟨some (String.ofList (← get).flags), false, false⟩
        modify fun p => { p with frames := (("-", some flags) :: p.frames.headD []) :: outer }
      else if !isName name then Run.fail (name ++ ": bad variable name")
      else
        let before ← Run.entry? name
        let frame := ((← get).frames.head?).getD frame
        let frame := if (frame.lookup name).isSome then frame else (name, before) :: frame
        modify fun p => { p with frames := frame :: outer }
        match value with
        | some value => Run.assign name value
        | none => if before.isNone then Run.setVariable name ⟨none, false, false⟩
    return 0

/-! ## Settings -/

/-- The settings by letter and name, in the order in which they are listed. -/
def settings : List (Char × String) :=
  [('e', "errexit"), ('f', "noglob"), ('I', "ignoreeof"), ('i', "interactive"), ('m', "monitor"),
    ('n', "noexec"), ('s', "stdin"), ('x', "xtrace"), ('v', "verbose"), ('V', "vi"), ('E', "emacs"),
    ('C', "noclobber"), ('a', "allexport"), ('b', "notify"), ('u', "nounset"), ('\x01', "nolog"),
    ('\x02', "debug")]

/-- The letter of a setting. -/
def settingNamed? (name : String) : Option Char := (settings.find? (·.2 == name)).map (·.1)

def setFlag (on : Bool) (flag : Char) : Run Unit :=
  modify fun p =>
    let others := p.flags.filter (· != flag)
    { p with flags := if on then flag :: others else others }

def listSettings (asCommands : Bool) : Run Nat := do
  let flags := (← get).flags
  let lines := settings.map fun (letter, name) =>
    if asCommands then "set " ++ (if flags.contains letter then "-o " else "+o ") ++ name ++ "\n"
    else
      name ++ String.ofList (List.replicate (16 - name.length) ' ')
        ++ (if flags.contains letter then "on" else "off") ++ "\n"
  tell ((if asCommands then "" else "Current option settings\n") ++ String.join lines)

/-- Reads settings. What follows them becomes the arguments, even if that is nothing behind two dashes. -/
def applySettings : List String → Run Nat
  | [] => return 0
  | "--" :: rest => do
    modify fun p => { p with arguments := rest, optionOffset := 0 }
    return 0
  | "-" :: rest => do
    setFlag false 'x'
    setFlag false 'v'
    if !rest.isEmpty then modify fun p => { p with arguments := rest, optionOffset := 0 }
    return 0
  | word :: rest => do
    match word.toList with
    | sign :: letters =>
      if (sign == '-' || sign == '+') && !letters.isEmpty then
        let named := letters.contains 'o'
        letters.forM fun letter => do
          if letter == 'o' then return ()
          else if (settings.lookup letter).isSome then setFlag (sign == '-') letter
          else Run.fail ("Illegal option " ++ String.ofList [sign, letter])
        match named, rest with
        | false, rest => applySettings rest
        | true, [] => listSettings (sign == '+')
        | true, name :: rest =>
          match settingNamed? name with
          | some letter => setFlag (sign == '-') letter
          | none => Run.fail ("Illegal option " ++ String.singleton sign ++ "o " ++ name)
          applySettings rest
      else keep (word :: rest)
    | [] => keep (word :: rest)
where
  keep (arguments : List String) : Run Nat := do
    modify fun p => { p with arguments := arguments, optionOffset := 0 }
    return 0

def changeSettings : Builtin := fun _ arguments =>
  if arguments.isEmpty then listVariables "" (fun _ => true) true else applySettings arguments

/-! ## Arguments -/

def shiftArguments : Builtin := fun _ arguments => do
  let n ← match arguments with
    | [] => pure 1
    | text :: _ => number text
  let p ← get
  if p.arguments.length < n then Run.fail "can't shift that many"
  else
    modify fun p => { p with arguments := p.arguments.drop n, optionOffset := 0 }
    return 0

/-- Where the reading of options stands: the next argument and the letters that are left of the last one. -/
structure OptionCursor where
  next : Nat
  letters : List Char

/-- Reads the next option of the arguments. -/
def nextOption : Builtin := fun _ arguments => do
  match arguments with
  | accepted :: name :: rest =>
    let p ← get
    let words := if rest.isEmpty then p.arguments else rest
    let index := ((← Run.valueD "OPTIND" "1").toNat?).getD 1
    let offset := p.optionOffset
    let previous := ((words[index - 2]?).getD "").toList
    let left := if index ≤ 1 || offset = 0 then [] else previous.drop offset
    let silent := accepted.startsWith ":"
    let finish (c : OptionCursor) (found : Char) (status : Nat) : Run Nat := do
      Run.assign "OPTIND" (toString c.next)
      Run.assign name (String.singleton found)
      let last := ((words[c.next - 2]?).getD "").length
      modify fun p => { p with optionOffset := if c.letters.isEmpty then 0 else last - c.letters.length }
      return status
    let withLetter (index : Nat) (letter : Char) (rest : List Char) : Run Nat := do
      let kind := (accepted.toList.dropWhile (· != letter)).drop 1
      if letter == ':' || !accepted.contains letter then
        if silent then Run.assign "OPTARG" (String.singleton letter)
        else
          note ("Illegal option -" ++ String.singleton letter ++ "\n")
          Run.unassign "OPTARG"
        finish ⟨index, rest⟩ '?' 0
      else if kind.head? = some ':' then
        match rest, words[index - 1]? with
        | [], none =>
          if silent then
            Run.assign "OPTARG" (String.singleton letter)
            finish ⟨index, []⟩ ':' 0
          else
            note ("No arg for -" ++ String.singleton letter ++ " option\n")
            Run.unassign "OPTARG"
            finish ⟨index, []⟩ '?' 0
        | [], some value =>
          Run.assign "OPTARG" value
          finish ⟨index + 1, []⟩ letter 0
        | rest, _ =>
          Run.assign "OPTARG" (String.ofList rest)
          finish ⟨index, []⟩ letter 0
      else
        Run.assign "OPTARG" ""
        finish ⟨index, rest⟩ letter 0
    match left with
    | letter :: rest => withLetter index letter rest
    | [] =>
      match (words[index - 1]?).map String.toList with
      | some ['-', '-'] => finish ⟨index + 1, []⟩ '?' 1
      | some ('-' :: letter :: rest) => withLetter (index + 1) letter rest
      | _ => finish ⟨index, []⟩ '?' 1
  | _ => Run.fail "Usage: getopts optstring var [arg...]"

/-! ## Input -/

/-- A line of the input as it is read: its characters, which of them were escaped, how many characters of the
input it takes, and whether it ended. -/
structure InputLine where
  glyphs : List (Char × Bool)
  size : Nat
  ended : Bool

/-- Reads one line. Unless it is raw, a backslash escapes the next character and joins lines. -/
def readInputLine (raw : Bool) : List Char → InputLine
  | [] => ⟨[], 0, false⟩
  | '\n' :: _ => ⟨[], 1, true⟩
  | '\\' :: '\n' :: rest =>
    if raw then ⟨[('\\', false)], 2, true⟩
    else
      let line := readInputLine raw rest
      { line with size := line.size + 2 }
  | '\\' :: c :: rest =>
    if raw then
      let line := readInputLine raw (c :: rest)
      { line with glyphs := ('\\', false) :: line.glyphs, size := line.size + 1 }
    else
      let line := readInputLine raw rest
      { line with glyphs := (c, true) :: line.glyphs, size := line.size + 2 }
  | c :: rest =>
    let line := readInputLine raw rest
    { line with
      glyphs := if c == '\x00' then line.glyphs else (c, false) :: line.glyphs
      size := line.size + 1 }

/-- The fields of a line for as many variables. The last one gets what is left, without blanks at its end and
without a separator that ends a field of its own. -/
def inputFields (separators : List Char) : Nat → List (Char × Bool) → List String
  | 0, _ => []
  | n + 1, glyphs =>
    let isSeparator (g : Char × Bool) : Bool := !g.2 && separators.contains g.1
    let isBlank (g : Char × Bool) : Bool := isSeparator g && (g.1 == ' ' || g.1 == '\t' || g.1 == '\n')
    let text (glyphs : List (Char × Bool)) : String := String.ofList (glyphs.map (·.1))
    let trimEnd (glyphs : List (Char × Bool)) : List (Char × Bool) := (glyphs.reverse.dropWhile isBlank).reverse
    let glyphs := glyphs.dropWhile isBlank
    if n = 0 then
      let glyphs := trimEnd glyphs
      match glyphs.getLast? with
      | some last =>
        let shorter := trimEnd glyphs.dropLast
        if isSeparator last && !shorter.any isSeparator then [text shorter] else [text glyphs]
      | none => [""]
    else
      let field := glyphs.takeWhile (!isSeparator ·)
      let rest := (glyphs.drop field.length).dropWhile isBlank
      let rest := match rest with
        | g :: after => if isSeparator g then after else rest
        | [] => []
      text field :: inputFields separators n rest

def readVariables : Builtin := fun _ arguments => do
  let (options, names) ← readOptions ['r'] ['p'] arguments
  if names.isEmpty then Run.fail "arg count"
  else
    let raw := options.any (·.1 == 'r')
    let line := readInputLine raw (← Run.input).toList
    Run.consume line.size
    let fields := inputFields (← Run.separators).toList names.length line.glyphs
    (names.zip fields).forM fun (name, value) => do
      if isName name then Run.assign name value else Run.fail (name ++ ": bad variable name")
    return if line.ended then 0 else 1

end Brainfuck.Shell.Builtin
