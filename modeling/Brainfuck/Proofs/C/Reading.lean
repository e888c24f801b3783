import Brainfuck.Code.C
import Brainfuck.Proofs.Reading
/-!
# Reading C code

`read?_text`: read line by line, the text of linear code says its lines. A label stands in the first column;
every other line is a statement, which is read word by word.
-/

namespace Brainfuck.C

/-! ## From words to lines -/

def label? (finish word : String) : Option Label := do
  let number ← between? "label_" finish word
  number.toNat?.map Label.mk

/-- The number that a word is in front of the given ending. -/
def natural? (finish word : String) : Option Nat := do
  let number ← between? "" finish word
  number.toNat?

/-- A constant that a byte can hold. -/
def byte? (finish word : String) : Option UInt8 := do
  let number ← natural? finish word
  if number < 256 then some (UInt8.ofNat number) else none

def ofWords? : List String → Option Line
  | ["unsigned", "char", "*tape", "=", length, "1);"] => do
    let number ← between? "calloc(" "," length
    number.toNat?.map .allocateTape
  | ["long", "head", "=", "0;"] => some .clearHead
  | ["tape[head]", "=", "(unsigned", "char)(tape[head]", "+", amount] => (byte? ");" amount).map .addToCell
  | ["head", "+=", offset] => do
    let number ← between? "" ";" offset
    number.toInt?.map .addToHead
  | ["\x7b", "int", "c", "=", "getchar();", "tape[head]", "=", "c", "==", "EOF", "?", "0", ":", "(unsigned",
      "char)c;", "\x7d"] => some .readCell
  | ["putchar(tape[head]);"] => some .writeCell
  | ["goto", target] => (label? ";" target).map .goto
  | ["if", "(tape[head]", ">", "0)", "goto", target] => (label? ";" target).map .gotoIfNonzero
  | ["free(tape);"] => some .freeTape
  | ["return", "0;"] => some .returnZero
  | _ => none

def ofLine? (line : String) : Option Line :=
  match between? "    " "" line with
  | some body => ofWords? (pieces ' ' body)
  | none => (label? ":" line).map .label

/-- The lines of a program, read from its text. -/
def read? (text : String) : Option (List Line) := do
  let body ← between? header footer text
  (textLines body).mapM ofLine?

/-! ## The words of a line -/

/-- The words of a line that is no label. -/
def Line.words : Line → List String
  | allocateTape length => ["unsigned", "char", "*tape", "=", "calloc(" ++ toString length ++ ",", "1);"]
  | clearHead => ["long", "head", "=", "0;"]
  | addToCell amount =>
    ["tape[head]", "=", "(unsigned", "char)(tape[head]", "+", toString amount.toNat ++ ");"]
  | addToHead offset => ["head", "+=", toString offset ++ ";"]
  | readCell =>
    ["\x7b", "int", "c", "=", "getchar();", "tape[head]", "=", "c", "==", "EOF", "?", "0", ":", "(unsigned",
      "char)c;", "\x7d"]
  | writeCell => ["putchar(tape[head]);"]
  | goto target => ["goto", labelName target ++ ";"]
  | label _ => []
  | gotoIfNonzero target => ["if", "(tape[head]", ">", "0)", "goto", labelName target ++ ";"]
  | freeTape => ["free(tape);"]
  | returnZero => ["return", "0;"]

/-- The line of text that a line is written as. -/
def Line.written : Line → String
  | label l => labelName l ++ ":"
  | line => "    " ++ String.intercalate " " line.words

theorem render_eq (line : Line) : line.render = joinLines [line.written] := by
  cases line <;> simp [← String.toList_inj, Line.render, Line.written, Line.words, joinLines, statement]

theorem solid_labelName (l : Label) : Solid (labelName l) := solid_append (by decide) (solid_nat l.id)

theorem solid_words (line : Line) : ∀ w ∈ line.words, Solid w := by
  have hended {w finish : String} (hw : Solid w) (h : Solid finish) : Solid (w ++ finish) := solid_append hw h
  cases line with
  | allocateTape length =>
    have hlength : Solid ("calloc(" ++ (length.repr ++ ",")) :=
      solid_append (by decide) (solid_append (solid_nat length) (by decide))
    simp [Line.words, hlength, String.append_assoc]
    decide
  | addToCell amount =>
    have hamount : Solid (amount.toNat.repr ++ ");") := solid_append (solid_nat amount.toNat) (by decide)
    simp [Line.words, hamount]
    decide
  | addToHead offset =>
    have hoffset : Solid (offset.repr ++ ";") := solid_append (solid_int offset) (by decide)
    simp [Line.words, hoffset]
    decide
  | goto target | gotoIfNonzero target =>
    have htarget : Solid (labelName target ++ ";") := solid_append (solid_labelName target) (by decide)
    simp [Line.words, htarget]
    decide
  | label l => simp [Line.words]
  | clearHead | readCell | writeCell | freeTape | returnZero => simp only [Line.words]; decide

/-! ## Labels and numbers are read back -/

@[simp] theorem label?_labelName (l : Label) (finish : String) : label? finish (labelName l ++ finish) = some l := by
  rw [label?, labelName, between?_eq]
  simp [Nat.toNat?_repr]

@[simp] theorem byte?_repr (b : UInt8) (finish : String) : byte? finish (b.toNat.repr ++ finish) = some b := by
  have h := between?_eq "" finish b.toNat.repr
  rw [String.empty_append] at h
  have := b.toNat_lt
  simp [byte?, natural?, h, Nat.toNat?_repr, show b.toNat < 256 by omega]

theorem ofWords?_words (line : Line) (h : ∀ l, line ≠ .label l) : ofWords? line.words = some line := by
  cases line with
  | allocateTape length =>
    simp [Line.words, ofWords?, between?_eq, Nat.toNat?_repr]
  | addToHead offset =>
    have hoffset := between?_eq "" ";" offset.repr
    rw [String.empty_append] at hoffset
    simp [Line.words, ofWords?, hoffset, Int.toInt?_repr]
  | label l => exact absurd rfl (h l)
  | _ => simp [Line.words, ofWords?]

/-! ## Texts -/

theorem ofLine?_written (line : Line) : ofLine? line.written = some line := by
  by_cases hlabel : ∃ l, line = .label l
  · obtain ⟨l, rfl⟩ := hlabel
    -- A label stands in the first column, a statement does not.
    have hnone : between? "    " "" (labelName l ++ ":") = none := by
      simp [between?, List.dropPrefix?, labelName]
    rw [ofLine?, Line.written, hnone]
    simp
  · have h : ∀ l, line ≠ .label l := fun l hl => hlabel ⟨l, hl⟩
    have hwritten : line.written = "    " ++ String.intercalate " " line.words := by
      cases line with
      | label l => exact absurd rfl (h l)
      | _ => rfl
    have hne : line.words ≠ [] := by
      cases line with
      | label l => exact absurd rfl (h l)
      | _ => simp [Line.words]
    have hbody := between?_eq "    " "" (String.intercalate " " line.words)
    rw [String.append_empty] at hbody
    rw [ofLine?, hwritten, hbody]
    exact (congrArg ofWords? (words_intercalate (solid_words line) hne)).trans (ofWords?_words line h)

theorem newline_notMem_written (line : Line) : '\n' ∉ line.written.toList := by
  cases line with
  | label l => exact (solid_append (solid_labelName l) (by decide : Solid ":")).2
  | _ =>
    rw [Line.written, String.toList_append, List.mem_append, not_or]
    · exact ⟨by decide, newline_notMem_intercalate (solid_words _)⟩
    · exact fun _ h => by cases h

theorem read?_text (code : List Op) : read? (text code) = some (lines code) := by
  rw [read?, text, foldl_render render_eq, ← List.map_eq_flatMap, between?_eq]
  have htext : textLines (joinLines ((lines code).map Line.written)) = (lines code).map Line.written := by
    refine textLines_joinLines fun l hl => ?_
    obtain ⟨line, -, rfl⟩ := List.mem_map.1 hl
    exact newline_notMem_written line
  have hlines : ((lines code).map Line.written).mapM ofLine? = some (lines code) := by
    induction lines code with
    | nil => rfl
    | cons line ls ih => simp [List.mapM_cons, ofLine?_written, ih]
  exact (congrArg (List.mapM ofLine?) htext).trans hlines

end Brainfuck.C
