import Brainfuck.Code.Llvm
import Brainfuck.Proofs.Reading
/-!
# Reading LLVM code

`read?_text`: read line by line, the text of linear code says its lines. A line is read word by word; the
words that are no names or numbers tell its shape.
-/

namespace Brainfuck.Llvm

/-! ## From words to lines -/

/-- The value that a word names in front of the given ending. -/
def value? (finish word : String) : Option Value := do
  let number ← between? "%v" finish word
  number.toNat?

def block? (name : String) : Option Block :=
  match (between? "label_" "" name).bind String.toNat? with
  | some id => some (.label ⟨id⟩)
  | none => (between? "loop_end_" "" name).bind fun index => index.toNat?.map .loopEnd

/-- The block that a word branches to. -/
def target? (finish word : String) : Option Block := do
  let name ← between? "%" finish word
  block? name

def number? (finish word : String) : Option Int := do
  let number ← between? "" finish word
  number.toInt?

/-- A line that gives a name to a result. -/
def assignment? (result : String) : List String → Option Line
  | ["alloca", "i64"] => if result = "%head" then some .allocateHead else none
  | ["call", "ptr", "@calloc(i64", length, "i64", "1)"] => do
    let number ← between? "" "," length
    if result = "%tape" then number.toNat?.map .allocateTape else none
  | ["load", "i64,", "ptr", "%head"] => do return .loadHead (← value? "" result)
  | ["getelementptr", "i8,", "ptr", "%tape,", "i64", head] => do
    return .cellAddress (← value? "" result) (← value? "" head)
  | ["load", "i8,", "ptr", address] => do return .loadCell (← value? "" result) (← value? "" address)
  | ["add", "i8", left, right] => do
    return .addByte (← value? "" result) (← value? "," left) (← number? "" right)
  | ["add", "i64", left, right] => do
    return .addHead (← value? "" result) (← value? "," left) (← number? "" right)
  | ["call", "i32", "@getchar()"] => do return .getchar (← value? "" result)
  | ["icmp", "eq", "i32", read, "-1"] => do return .isEof (← value? "" result) (← value? "," read)
  | ["trunc", "i32", wide, "to", "i8"] => do return .truncate (← value? "" result) (← value? "" wide)
  | ["select", "i1", condition, "i8", "0,", "i8", byte] => do
    return .zeroIf (← value? "" result) (← value? "," condition) (← value? "" byte)
  | ["zext", "i8", byte, "to", "i32"] => do return .widen (← value? "" result) (← value? "" byte)
  | ["icmp", "ugt", "i8", byte, "0"] => do return .isNonzero (← value? "" result) (← value? "," byte)
  | _ => none

/-- A line that gives no name. -/
def command? : List String → Option Line
  | ["store", "i64", value, "ptr", "%head"] =>
    if value = "0," then some .clearHead else (value? "," value).map .storeHead
  | ["store", "i8", value, "ptr", address] => do return .storeCell (← value? "," value) (← value? "" address)
  | ["call", "i32", "@putchar(i32", wide] => do return .putchar (← value? ")" wide)
  | ["call", "void", "@free(ptr", "%tape)"] => some .freeTape
  | ["br", "label", target] => do return .branch (← target? "" target)
  | ["br", "i1", condition, "label", target, "label", otherwise] => do
    return .branchIf (← value? "," condition) (← target? "," target) (← target? "" otherwise)
  | ["ret", "i32", "0"] => some .returnZero
  | _ => none

def ofWords? : List String → Option Line
  | result :: "=" :: operation => assignment? result operation
  | command => command? command

def ofLine? (line : String) : Option Line := do
  let body ← between? "  " "" line
  ofWords? (pieces ' ' body)

/-- An empty line announces the name of a block. -/
def readLines : List String → Option (List Line)
  | [] => some []
  | [line] => do return [← ofLine? line]
  | line :: next :: rest =>
    if line = "" then do
      let name ← between? "" ":" next
      return .block (← block? name) :: (← readLines rest)
    else do
      return (← ofLine? line) :: (← readLines (next :: rest))

/-- The lines of a program, read from its text. -/
def read? (text : String) : Option (List Line) := do
  let body ← between? header footer text
  readLines (textLines body)

/-! ## Names and numbers are read back -/

@[simp] theorem value?_valueName (v : Value) (finish : String) : value? finish (valueName v ++ finish) = some v := by
  rw [value?, valueName, between?_eq]
  exact Nat.toNat?_repr v

@[simp] theorem value?_valueName_nil (v : Value) : value? "" (valueName v) = some v := by
  have h := value?_valueName v ""
  rwa [String.append_empty] at h

@[simp] theorem number?_repr (n : Int) : number? "" n.repr = some n := by
  have h := between?_eq "" "" n.repr
  rw [String.empty_append, String.append_empty] at h
  rw [number?, h]
  exact Int.toInt?_repr n

@[simp] theorem block?_name (b : Block) : block? b.name = some b := by
  cases b with
  | label l =>
    have h := between?_eq "label_" "" (toString l.id)
    rw [String.append_empty] at h
    rw [block?, Block.name, h]
    simp
  | loopEnd index =>
    have h := between?_eq "loop_end_" "" (toString index)
    rw [String.append_empty] at h
    -- The two kinds of names differ in their second letter.
    have hlabel : between? "label_" "" ("loop_end_" ++ toString index) = none := by
      simp [between?, List.dropPrefix?]
    rw [block?, Block.name, hlabel, h]
    simp

@[simp] theorem target?_name (b : Block) (finish : String) : target? finish ("%" ++ b.name ++ finish) = some b := by
  rw [target?, between?_eq]
  exact block?_name b

@[simp] theorem target?_name_nil (b : Block) : target? "" ("%" ++ b.name) = some b := by
  have h := target?_name b ""
  rwa [String.append_empty] at h

/-! ## The words of a line -/

/-- The words of a line that is no block. -/
def Line.words : Line → List String
  | allocateHead => ["%head", "=", "alloca", "i64"]
  | allocateTape length => ["%tape", "=", "call", "ptr", "@calloc(i64", toString length ++ ",", "i64", "1)"]
  | clearHead => ["store", "i64", "0,", "ptr", "%head"]
  | loadHead result => [valueName result, "=", "load", "i64,", "ptr", "%head"]
  | cellAddress result head =>
    [valueName result, "=", "getelementptr", "i8,", "ptr", "%tape,", "i64", valueName head]
  | loadCell result address => [valueName result, "=", "load", "i8,", "ptr", valueName address]
  | addByte result left right => [valueName result, "=", "add", "i8", valueName left ++ ",", toString right]
  | storeCell value address => ["store", "i8", valueName value ++ ",", "ptr", valueName address]
  | addHead result left right => [valueName result, "=", "add", "i64", valueName left ++ ",", toString right]
  | storeHead value => ["store", "i64", valueName value ++ ",", "ptr", "%head"]
  | getchar result => [valueName result, "=", "call", "i32", "@getchar()"]
  | isEof result read => [valueName result, "=", "icmp", "eq", "i32", valueName read ++ ",", "-1"]
  | truncate result wide => [valueName result, "=", "trunc", "i32", valueName wide, "to", "i8"]
  | zeroIf result condition byte =>
    [valueName result, "=", "select", "i1", valueName condition ++ ",", "i8", "0,", "i8", valueName byte]
  | widen result byte => [valueName result, "=", "zext", "i8", valueName byte, "to", "i32"]
  | putchar wide => ["call", "i32", "@putchar(i32", valueName wide ++ ")"]
  | isNonzero result byte => [valueName result, "=", "icmp", "ugt", "i8", valueName byte ++ ",", "0"]
  | branch target => ["br", "label", "%" ++ target.name]
  | branchIf condition target otherwise =>
    ["br", "i1", valueName condition ++ ",", "label", "%" ++ target.name ++ ",", "label", "%" ++ otherwise.name]
  | block _ => []
  | freeTape => ["call", "void", "@free(ptr", "%tape)"]
  | returnZero => ["ret", "i32", "0"]

/-- The lines of text that a line is written as. -/
def Line.written : Line → List String
  | block name => ["", name.name ++ ":"]
  | line => ["  " ++ String.intercalate " " line.words]

theorem render_eq (line : Line) : line.render = joinLines line.written := by
  cases line <;>
    simp [← String.toList_inj, Line.render, Line.written, Line.words, joinLines, statement, assignment]

theorem solid_valueName (v : Value) : Solid (valueName v) :=
  solid_append (by decide) (solid_nat v)

theorem solid_name (b : Block) : Solid b.name := by
  cases b with
  | label l => exact solid_append (by decide) (solid_nat l.id)
  | loopEnd index => exact solid_append (by decide) (solid_nat index)

theorem solid_words (line : Line) : ∀ w ∈ line.words, Solid w := by
  have hvalue (v : Value) : Solid (valueName v) := solid_valueName v
  have hended (v : Value) {finish : String} (h : Solid finish) : Solid (valueName v ++ finish) :=
    solid_append (solid_valueName v) h
  have htarget (b : Block) : Solid ("%" ++ b.name) := solid_append (by decide) (solid_name b)
  have hcomma : Solid "," := by decide
  cases line with
  | allocateTape length =>
    have hlength : Solid (length.repr ++ ",") := solid_append (solid_nat length) hcomma
    simp [Line.words, hlength]
    decide
  | addByte result left right | addHead result left right =>
    have hright : Solid right.repr := solid_int right
    simp [Line.words, hvalue, hended left hcomma, hright]
    decide
  | branchIf condition target otherwise =>
    simp [Line.words, hended condition hcomma, htarget, solid_append (htarget target) hcomma]
    decide
  | _ =>
    simp [Line.words, hvalue, hended _ hcomma, htarget, hended _ (by decide : Solid ")")] <;> decide

theorem ofWords?_words (line : Line) (h : ∀ b, line ≠ .block b) : ofWords? line.words = some line := by
  cases line with
  | allocateTape length =>
    have hlength := between?_eq "" "," length.repr
    rw [String.empty_append] at hlength
    simp [Line.words, ofWords?, assignment?, hlength, Nat.toNat?_repr]
  | storeHead v =>
    -- The name of a value begins otherwise than the constant that the same shape is cleared with.
    have hne : valueName v ++ "," ≠ "0," := fun he => by
      have := congrArg String.toList he
      simp [valueName] at this
    simp [Line.words, ofWords?, command?, hne]
  | block b => exact absurd rfl (h b)
  | _ => simp [Line.words, ofWords?, assignment?, command?]

/-! ## Texts -/

theorem written_eq {line : Line} (h : ∀ b, line ≠ .block b) :
    line.written = ["  " ++ String.intercalate " " line.words] := by
  cases line with
  | block b => exact absurd rfl (h b)
  | _ => rfl

theorem words_ne_nil {line : Line} (h : ∀ b, line ≠ .block b) : line.words ≠ [] := by
  cases line with
  | block b => exact absurd rfl (h b)
  | _ => simp [Line.words]

theorem ofLine?_eq {line : Line} (h : ∀ b, line ≠ .block b) :
    ofLine? ("  " ++ String.intercalate " " line.words) = some line := by
  have hbody := between?_eq "  " "" (String.intercalate " " line.words)
  rw [String.append_empty] at hbody
  rw [ofLine?, hbody]
  exact (congrArg ofWords? (words_intercalate (solid_words line) (words_ne_nil h))).trans (ofWords?_words line h)

theorem newline_notMem_written (line : Line) : ∀ l ∈ line.written, '\n' ∉ l.toList := by
  intro l hl
  cases line with
  | block b =>
    have hname := (solid_append (solid_name b) (by decide : Solid ":")).2
    simp only [Line.written, List.mem_cons, List.not_mem_nil, or_false] at hl
    rcases hl with rfl | rfl
    · decide
    · exact hname
  | _ =>
    obtain rfl := List.mem_singleton.1 hl
    rw [String.toList_append, List.mem_append, not_or]
    exact ⟨by decide, newline_notMem_intercalate (solid_words _)⟩

theorem readLines_statement {text : String} {line : Line} {rest : List String} {ls : List Line}
    (h : ofLine? text = some line) (hne : text ≠ "") (hrest : readLines rest = some ls) :
    readLines (text :: rest) = some (line :: ls) := by
  cases rest with
  | nil =>
    cases hrest
    simp [readLines, h]
  | cons next rest => simp [readLines, h, hne, hrest]

theorem readLines_block (b : Block) {rest : List String} {ls : List Line} (hrest : readLines rest = some ls) :
    readLines ("" :: (b.name ++ ":") :: rest) = some (.block b :: ls) := by
  have hname := between?_eq "" ":" b.name
  rw [String.empty_append] at hname
  simp [readLines, hname, hrest]

theorem readLines_written (ls : List Line) : readLines (ls.flatMap Line.written) = some ls := by
  induction ls with
  | nil => rfl
  | cons line ls ih =>
    rw [List.flatMap_cons]
    by_cases hblock : ∃ b, line = .block b
    · obtain ⟨b, rfl⟩ := hblock
      exact readLines_block b ih
    · have h : ∀ b, line ≠ .block b := fun b hb => hblock ⟨b, hb⟩
      rw [written_eq h]
      refine readLines_statement (ofLine?_eq h) (fun he => ?_) ih
      simpa using congrArg String.toList he

theorem read?_text (code : List Op) : read? (text code) = some (lines code) := by
  rw [read?, text, foldl_render render_eq, between?_eq]
  have htext : textLines (joinLines ((lines code).flatMap Line.written)) = (lines code).flatMap Line.written := by
    refine textLines_joinLines fun l hl => ?_
    obtain ⟨line, -, hline⟩ := List.mem_flatMap.1 hl
    exact newline_notMem_written line l hline
  exact (congrArg readLines htext).trans (readLines_written _)

end Brainfuck.Llvm
