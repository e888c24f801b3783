import Brainfuck.Shell.Arithmetic
import Brainfuck.Shell.Field
import Brainfuck.Shell.Process
/-!
# Expansion

Words become items, and items become fields or a single text. Commands in words are run by the engine that
is handed in.
-/

namespace Brainfuck.Shell

/-! ## Parameters -/

/-- The value of a parameter, if it has one. -/
def parameter? (name : String) : Run (Option String) := do
  let p ← get
  match name with
  | "#" => return some (toString p.arguments.length)
  | "?" => return some (toString p.status)
  | "$" => return some (toString p.number)
  | "!" => return p.children.head?.map fun child => toString child.number
  | "-" => return some (String.ofList ("ubaCEVvxsnmiIfe".toList.filter p.flags.contains))
  | "0" => return some p.name
  | name =>
    if name.all Char.isDigit then
      return match name.toNat? with
        | none => none
        | some n => p.arguments[n - 1]?
    else Run.value? name

/-- The text between values that become one. -/
def joint (name : String) : Run String := do
  if name = "*" then
    match (← Run.value? "IFS") with
    | none => return " "
    | some separators => return String.ofList (separators.toList.take 1)
  else return " "

/-- All arguments: as fields of their own, unless they have to be one or their quoted list is. -/
def allArguments (single quoted : Bool) (name : String) : Run (List Item) := do
  let arguments := (← get).arguments
  if single || (quoted && name = "*") then
    return Item.ofValue quoted ((← joint name).intercalate arguments)
  else return (List.intersperse [.border] (arguments.map (Item.ofValue quoted))).flatten

/-- An expansion to nothing is still a field where it is quoted. -/
def orEmpty (quoted : Bool) (items : List Item) : List Item :=
  if quoted && items.isEmpty then [.empty] else items

/-! ## Numbers -/

/-- The value of an arithmetic expression. -/
def evaluate (text : String) : Run Int64 := do
  let fault (f : Arithmetic.Fault) : Run Int64 :=
    Run.fail ("arithmetic expression: " ++ f.message ++ ": \"" ++ text ++ "\"")
  match Arithmetic.ofText text with
  | .error f => fault f
  | .ok e =>
    Arithmetic.evaluate
      { value := fun name => do
          let v ← Run.valueD name ""
          match Arithmetic.valueOfText? v with
          | some n => return n
          | none => Run.fail ("Illegal number: " ++ v)
        assign := fun name n => Run.assign name (toString n.toInt)
        fail := fault }
      e

/-! ## Tildes -/

/-- The home of a user. -/
def home? (user : String) : Run (Option String) := do
  if user.isEmpty then Run.value? "HOME"
  else return if user = "root" then some "/root" else none

/-- A word with its tilde, if it begins with one, replaced by a home. -/
def withHome (w : Word) : Run Word := do
  match w with
  | .text false s :: rest =>
    match s.toList with
    | '~' :: chars =>
      let user := chars.takeWhile (· != '/')
      let after := chars.drop user.length
      if after.isEmpty && !rest.isEmpty then return w
      else
        match ← home? (String.ofList user) with
        | none => return w
        | some home =>
          return .text true home :: (if after.isEmpty then rest else .text false (String.ofList after) :: rest)
    | _ => return w
  | _ => return w

/-! ## Words -/

mutual

/-- The items of a word. With `single` it becomes one field; the unquoted text of a word in braces is split
like a value. -/
def expandWord (e : Engine) (single inBraces : Bool) : Word → Run (List Item)
  | [] => return []
  | piece :: rest => do
    let items ← expandPiece e single inBraces piece
    return items ++ (← expandWord e single inBraces rest)

def expandPiece (e : Engine) (single inBraces : Bool) : Piece → Run (List Item)
  | .text quoted s =>
    return if quoted && s.isEmpty then [.empty] else Item.ofText quoted (inBraces && !quoted) s
  | .parameter quoted name use => expandUse e single quoted name use
  | .substitution quoted body => do
    let (status, output) ← Run.capture 1 (Run.apart e (e.run false body))
    modify fun p => { p with substitutionStatus := status }
    let chars := (output.toList.filter (· != '\x00')).reverse.dropWhile (· == '\n')
    return Item.ofValue quoted (String.ofList chars.reverse)
  | .arithmetic quoted expression => do
    let items ← expandWord e true false expression
    return Item.ofValue quoted (toString (← evaluate (Item.text items)).toInt)

def expandUse (e : Engine) (single quoted : Bool) (name : String) : Use → Run (List Item)
  | .bad => Run.fail "Bad substitution"
  | .value => do
    if name = "@" || name = "*" then allArguments single quoted name
    else return Item.ofValue quoted (← required name)
  | .length => do
    return Item.ofValue quoted (toString (← required name).length)
  | .default orNothing w => do
    if ← isMissing orNothing then return orEmpty quoted (← expandWord e single (!quoted) w)
    else present
  | .alternative orNothing w => do
    if ← isMissing orNothing then return orEmpty quoted []
    else return orEmpty quoted (← expandWord e single (!quoted) w)
  | .assign orNothing w => do
    if ← isMissing orNothing then
      let value := Item.text (← expandWord e true (!quoted) w)
      if isName name then
        Run.assign name value
        return Item.ofValue quoted value
      else Run.fail (name ++ ": bad variable name")
    else present
  | .require orNothing w => do
    if ← isMissing orNothing then
      let text := Item.text (← expandWord e true (!quoted) w)
      let text := if text.isEmpty then "parameter not set" ++ (if orNothing then " or null" else "") else text
      Run.fail (name ++ ": " ++ text)
    else present
  | .trimStart longest pattern => do
    let value ← required name
    let glyphs := (← expandWord e true false pattern).filterMap Item.glyph?
    return Item.ofValue quoted (Pattern.trimStart longest glyphs value)
  | .trimEnd longest pattern => do
    let value ← required name
    let glyphs := (← expandWord e true false pattern).filterMap Item.glyph?
    return Item.ofValue quoted (Pattern.trimEnd longest glyphs value)
where
  required (name : String) : Run String := do
    if name = "@" || name = "*" then return (← joint name).intercalate (← get).arguments
    else
      match ← parameter? name with
      | some value => return value
      | none =>
        if ← Run.hasFlag 'u' then Run.fail (name ++ ": parameter not set") else return ""
  isMissing (orNothing : Bool) : Run Bool := do
    if name = "@" || name = "*" then return (← get).arguments.all (·.isEmpty)
    else
      match ← parameter? name with
      | none => return true
      | some value => return orNothing && value.isEmpty
  present : Run (List Item) := do
    if name = "@" || name = "*" then allArguments single quoted name
    else return Item.ofValue quoted ((← parameter? name).getD "")

end

/-- The fields of a word. -/
def fieldsOfWord (e : Engine) (w : Word) : Run (List String) := do
  let items ← expandWord e false false (← withHome w)
  let fields := fieldsOf (← Run.separators).toList items
  if ← Run.hasFlag 'f' then return fields.map Glyph.text
  else
    let files := (← get).world.files
    return fields.flatMap (pathsOf files)

/-- The fields of several words. -/
def fieldsOfWords (e : Engine) (ws : List Word) : Run (List String) := do
  return (← ws.mapM (fieldsOfWord e)).flatten

/-- The text of a word that is not split. -/
def textOfWord (e : Engine) (w : Word) : Run String := do
  return Item.text (← expandWord e true false (← withHome w))

/-- A word as a pattern. -/
def patternOfWord (e : Engine) (w : Word) : Run (List Glyph) := do
  return (← expandWord e true false (← withHome w)).filterMap Item.glyph?

/-- The text of a here-document. -/
def textOfDocument (e : Engine) (w : Word) : Run String := do
  return Item.text (← expandWord e true false w)

/-- The texts between colons. Each may begin with a tilde. -/
def splitColons (w : Word) : List Word :=
  match w with
  | .text false s :: rest =>
    match s.splitOn ":" with
    | [] | [_] => [w]
    | first :: others =>
      let all := first :: others
      (all.dropLast.map fun part => [.text false part]) ++ [.text false (all.getLast?.getD "") :: rest]
  | w => [w]

/-- The value of an assignment. -/
def valueOfWord (e : Engine) (w : Word) : Run String := do
  return ":".intercalate (← (splitColons w).mapM (textOfWord e))

end Brainfuck.Shell
