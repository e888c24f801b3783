import Mathlib
/-!
# Reading texts

`textLines_joinLines`: the lines of a text are the lines it was joined from. `pieces_intercalate`: the same
for the words of a line. `between?_eq`: the inside of a word is found between a known start and end.
-/

namespace Brainfuck

/-! ## Pieces -/

/-- The pieces of a text between the places of a character. -/
def pieces (c : Char) (text : String) : List String := (text.split c).toList.map (·.copy)

theorem pieces_intercalate {c : Char} {ps : List String} (h : ∀ p ∈ ps, c ∉ p.toList) (hne : ps ≠ []) :
    pieces c (String.intercalate (String.singleton c) ps) = ps := by
  rw [pieces, String.toList_split_intercalate h, if_neg hne]

/-- The lines of a text, each of them ended. -/
def textLines (text : String) : List String := (pieces '\n' text).dropLast

/-- Lines, each of them ended, as a text. -/
def joinLines : List String → String
  | [] => ""
  | line :: rest => line ++ "\n" ++ joinLines rest

theorem joinLines_append (p q : List String) : joinLines (p ++ q) = joinLines p ++ joinLines q := by
  induction p with
  | nil => simp [joinLines]
  | cons line rest ih => simp [joinLines, ih, String.append_assoc]

theorem joinLines_eq (ls : List String) : joinLines ls = String.intercalate (String.singleton '\n') (ls ++ [""]) := by
  induction ls with
  | nil => rfl
  | cons line rest ih =>
    rw [joinLines, ih, List.cons_append, String.intercalate_cons_of_ne_nil (by simp)]
    rfl

theorem textLines_joinLines {ls : List String} (h : ∀ line ∈ ls, '\n' ∉ line.toList) :
    textLines (joinLines ls) = ls := by
  rw [textLines, joinLines_eq, pieces_intercalate ?_ (by simp), List.dropLast_concat]
  intro p hp
  rcases List.mem_append.1 hp with hp | hp
  · exact h p hp
  · simp [List.mem_singleton.1 hp]

/-- A text to which lines are added one after another. -/
theorem foldl_render {Line : Type} {render : Line → String} {written : Line → List String}
    (h : ∀ line, render line = joinLines (written line)) (ls : List Line) (text : String) :
    ls.foldl (fun text line => text ++ render line) text = text ++ joinLines (ls.flatMap written) := by
  induction ls generalizing text with
  | nil => simp [joinLines]
  | cons line ls ih => rw [List.foldl_cons, ih, List.flatMap_cons, joinLines_append, h, String.append_assoc]

/-! ## The inside of a word -/

def between? (start finish word : String) : Option String := do
  let rest ← word.toList.dropPrefix? start.toList
  let inner ← rest.dropSuffix? finish.toList
  return String.ofList inner

theorem between?_eq (start finish inner : String) : between? start finish (start ++ inner ++ finish) = some inner := by
  have h : (inner.toList ++ finish.toList).dropSuffix? finish.toList = some inner.toList :=
    List.dropSuffix?_eq_some_iff.2 ⟨finish.toList, rfl, by simp⟩
  simp [between?, List.append_assoc, List.dropPrefix?_append_of_beq, h]

/-! ## Words -/

/-- A word stands within one line and is one word there. -/
def Solid (word : String) : Prop := ' ' ∉ word.toList ∧ '\n' ∉ word.toList

instance (word : String) : Decidable (Solid word) := inferInstanceAs (Decidable (_ ∧ _))

theorem solid_append {p q : String} (hp : Solid p) (hq : Solid q) : Solid (p ++ q) := by
  simp [Solid, hp.1, hp.2, hq.1, hq.2]

theorem notMem_nat {c : Char} (hc : c.isDigit = false) (n : Nat) : c ∉ (toString n).toList := by
  intro h
  have hdigit := Nat.isDigit_of_mem_toDigits (by decide) (by decide) (show c ∈ Nat.toDigits 10 n by simpa using h)
  rw [hc] at hdigit
  cases hdigit

theorem notMem_int {c : Char} (hc : c.isDigit = false) (hminus : c ≠ '-') (n : Int) : c ∉ (toString n).toList := by
  cases n with
  | ofNat n => exact notMem_nat hc n
  | negSucc n =>
    have hnegative : (toString (Int.negSucc n)).toList = '-' :: (toString (n + 1)).toList := String.toList_append
    rw [hnegative, List.mem_cons, not_or]
    exact ⟨hminus, notMem_nat hc (n + 1)⟩

theorem solid_nat (n : Nat) : Solid (toString n) := ⟨notMem_nat (by decide) n, notMem_nat (by decide) n⟩

theorem solid_int (n : Int) : Solid (toString n) :=
  ⟨notMem_int (by decide) (by decide) n, notMem_int (by decide) (by decide) n⟩

/-- Words in a row make up a line. -/
theorem newline_notMem_intercalate {ws : List String} (h : ∀ w ∈ ws, Solid w) :
    '\n' ∉ (String.intercalate " " ws).toList := by
  induction ws with
  | nil => simp
  | cons w rest ih =>
    have hw := (h w (by simp)).2
    have hrest := ih fun v hv => h v (List.mem_cons_of_mem _ hv)
    cases rest with
    | nil => simpa using hw
    | cons v rest =>
      rw [String.intercalate_cons_of_ne_nil (by simp)]
      simp only [String.toList_append, List.mem_append, not_or]
      exact ⟨⟨hw, by decide⟩, hrest⟩

/-- The words of a line are those it was put together from. -/
theorem words_intercalate {ws : List String} (h : ∀ w ∈ ws, Solid w) (hne : ws ≠ []) :
    pieces ' ' (String.intercalate " " ws) = ws :=
  pieces_intercalate (fun w hw => (h w hw).1) hne

end Brainfuck
