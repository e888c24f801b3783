import Brainfuck.Code.Llvm.Assignment
import Brainfuck.Proofs.Llvm.Listing
import Brainfuck.Proofs.Llvm.Reading
/-!
# Values are assigned once

`text_singleAssignment`: whatever operations come in whatever order, the lines define the values in the order of their
numbers, open the ends of loops in that order, and use what the same operation has defined in the same block.

All of this is seen at one operation. It counts on from where the listing stands, so the numbers of all of them make up
one row. That the values of a line are those of its text is seen at its words.
-/

namespace Brainfuck.Llvm

/-! ## Values in the text of a line -/

theorem namedIn_cons {c : Char} {rest : List Char} (h : ∀ rest', c = '%' → rest ≠ 'v' :: rest') :
    namedIn (c :: rest) = namedIn rest :=
  namedIn.eq_3 c rest h

/-- Behind a character that belongs to no name, naming starts anew. -/
theorem namedIn_append {c : Char} (hc : c ≠ '%') (hv : c ≠ 'v') (hd : c.isDigit = false) (p q : List Char) :
    namedIn (p ++ c :: q) = namedIn p ++ namedIn q := by
  fun_induction namedIn p with
  | case1 => exact namedIn_cons fun _ h => absurd h hc
  | case2 rest ih =>
    have hdigits : (rest ++ c :: q).takeWhile Char.isDigit = rest.takeWhile Char.isDigit := by
      rw [List.takeWhile_append, List.takeWhile_cons_of_neg (by simp [hd]), List.append_nil]
      split
      next hwhole => exact ((List.takeWhile_prefix _).eq_of_length hwhole).symm
      next => rfl
    rw [List.cons_append, List.cons_append, namedIn, hdigits, ih, List.append_assoc]
  | case3 d rest h ih =>
    rw [List.cons_append, namedIn_cons ?_, ih]
    intro rest' hpercent hname
    cases rest with
    | nil => exact hv (List.cons.inj hname).1
    | cons e rest => exact h rest hpercent (by rw [(List.cons.inj hname).1])

theorem namedIn_plain {p : List Char} (h : '%' ∉ p) : namedIn p = [] := by
  induction p with
  | nil => rfl
  | cons c p ih =>
    rw [List.mem_cons, not_or] at h
    rw [namedIn_cons fun _ hc => absurd hc.symm h.1, ih h.2]

theorem namedIn_intercalate (ws : List String) :
    namedIn (String.intercalate " " ws).toList = ws.flatMap fun w => namedIn w.toList := by
  induction ws with
  | nil => rfl
  | cons w rest ih =>
    cases rest with
    | nil => simp
    | cons v rest =>
      rw [String.intercalate_cons_of_ne_nil (by simp), String.toList_append, String.toList_append, List.append_assoc]
      refine (namedIn_append (by decide) (by decide) (by decide) w.toList _).trans ?_
      rw [List.flatMap_cons, ← ih]
      rfl

theorem namedIn_valueName (v : Value) : namedIn (valueName v).toList = [v] := by
  have hname : (valueName v).toList = '%' :: 'v' :: (toString v).toList := String.toList_append
  have hdigits : (toString v).toList.takeWhile Char.isDigit = (toString v).toList := by
    refine List.takeWhile_eq_self_iff.2 fun c hc => ?_
    by_contra hdigit
    exact notMem_nat (by simpa using hdigit) v hc
  have hv : (toString v).toNat? = some v := Nat.toNat?_repr v
  rw [hname, namedIn, hdigits, String.ofList_toList, hv, namedIn_plain (notMem_nat (by decide) v)]
  rfl

theorem namedIn_ended (v : Value) {finish : String} {c : Char} (h : finish.toList = [c]) (hc : c ≠ '%')
    (hv : c ≠ 'v') (hd : c.isDigit = false) : namedIn (valueName v ++ finish).toList = [v] := by
  rw [String.toList_append, h, namedIn_append hc hv hd, namedIn_valueName]
  rfl

theorem percent_notMem_name (b : Block) : '%' ∉ b.name.toList := by
  cases b <;>
  · rw [Block.name, String.toList_append, List.mem_append, not_or]
    exact ⟨by decide, notMem_nat (by decide) _⟩

/-- Names of blocks begin otherwise than those of values. -/
theorem namedIn_target (b : Block) {finish : String} (h : '%' ∉ finish.toList) :
    namedIn ("%" ++ b.name ++ finish).toList = [] := by
  obtain ⟨rest, hname⟩ : ∃ rest, b.name.toList = 'l' :: rest := by cases b <;> exact ⟨_, String.toList_append⟩
  have hplain : '%' ∉ 'l' :: rest ++ finish.toList := by
    rw [← hname, List.mem_append, not_or]
    exact ⟨percent_notMem_name b, h⟩
  have htext : ("%" ++ b.name ++ finish).toList = '%' :: ('l' :: rest ++ finish.toList) := by
    rw [String.toList_append, String.toList_append, hname]
    rfl
  rw [htext, namedIn_cons (by simp), namedIn_plain hplain]

theorem namedIn_words (line : Line) :
    (line.words.flatMap fun w => namedIn w.toList) = line.result?.toList ++ line.operands := by
  have hcomma (v : Value) : namedIn (valueName v ++ ",").toList = [v] :=
    namedIn_ended v rfl (by decide) (by decide) (by decide)
  have hparenthesis (v : Value) : namedIn (valueName v ++ ")").toList = [v] :=
    namedIn_ended v rfl (by decide) (by decide) (by decide)
  have htarget (b : Block) : namedIn ("%" ++ b.name).toList = [] := by
    simpa using namedIn_target b (show '%' ∉ "".toList by decide)
  have hnumber (n : Int) : namedIn (toString n).toList = [] := namedIn_plain (notMem_int (by decide) (by decide) n)
  cases line with
  | block b => rfl
  | allocateTape length =>
    have hlength : '%' ∉ (toString length ++ ",").toList := by
      rw [String.toList_append, List.mem_append, not_or]
      exact ⟨notMem_nat (by decide) length, by decide⟩
    simp only [Line.words, List.flatMap_cons, List.flatMap_nil, namedIn_plain hlength]
    rfl
  | branchIf condition target otherwise =>
    have hfirst := namedIn_target target (show '%' ∉ ",".toList by decide)
    simp only [Line.words, List.flatMap_cons, List.flatMap_nil, hcomma, hfirst, htarget]
    rfl
  | _ =>
    simp only [Line.words, List.flatMap_cons, List.flatMap_nil, namedIn_valueName, hcomma, hparenthesis, hnumber,
      htarget]
    rfl

theorem namedIn_render (line : Line) : namedIn line.render.toList = line.result?.toList ++ line.operands := by
  by_cases hblock : ∃ b, line = .block b
  · obtain ⟨b, rfl⟩ := hblock
    refine namedIn_plain ?_
    rw [Line.render, String.toList_append, String.toList_append, List.mem_append, List.mem_append, not_or, not_or]
    exact ⟨⟨by decide, percent_notMem_name b⟩, by decide⟩
  · have hrender : line.render.toList = ' ' :: ' ' :: ((String.intercalate " " line.words).toList ++ ['\n']) := by
      rw [render_eq, written_eq fun b hb => hblock ⟨b, hb⟩]
      simp [joinLines]
    rw [hrender, namedIn_cons (by simp), namedIn_cons (by simp),
      namedIn_append (by decide) (by decide) (by decide), namedIn_intercalate, namedIn_words]
    exact List.append_nil _

theorem namesValues (line : Line) : line.NamesValues where
  assigned v hv := by cases line <;> cases hv <;> exact ⟨_, rfl⟩
  named := namedIn_render line

/-! ## What one operation writes -/

/-- The lines of one operation. -/
def share (s : Listing) (op : Op) : List Line := row s.nextValue op ++ control s op

/-- The values of an operation are the next ones. -/
theorem results_share (s : Listing) (op : Op) :
    ∃ n, (share s op).filterMap Line.result? = List.range' s.nextValue n ∧
      (s.op op).nextValue = s.nextValue + n := by
  cases op with
  | allocate | halt | jump => exact ⟨0, rfl, rfl⟩
  | mark l =>
    refine ⟨0, ?_, nextValue_mark s l⟩
    cases ht : s.terminated <;> simp [share, row, control, ht, Line.result?]
  | increment | output | jumpIfNonzero => exact ⟨4, rfl, rfl⟩
  | moveHead => exact ⟨2, rfl, rfl⟩
  | input => exact ⟨6, rfl, rfl⟩

/-- So is the end of a loop that it opens. -/
theorem loopEnds_share (s : Listing) (op : Op) :
    ∃ n, (share s op).filterMap Line.loopEnd? = List.range' s.nextBlock n ∧
      (s.op op).nextBlock = s.nextBlock + n := by
  cases op with
  | allocate | halt | jump | increment | output | moveHead | input => exact ⟨0, rfl, rfl⟩
  | mark l =>
    refine ⟨0, ?_, nextBlock_mark s l⟩
    cases ht : s.terminated <;> simp [share, row, control, ht, Line.loopEnd?]
  | jumpIfNonzero => exact ⟨1, rfl, rfl⟩

/-- What is defined behind a line, if `known` is in front of it and the block is still the same. -/
def Line.known (known : List Value) (line : Line) : List Value :=
  match line.block? with
  | some _ => []
  | none => line.result?.toList ++ known

theorem mem_known {line : Line} {known : List Value} {v : Value} (h : v ∈ line.known known) :
    (∀ b, line ≠ .block b) ∧ (line.result? = some v ∨ v ∈ known) := by
  rw [Line.known] at h
  split at h
  next => cases h
  next hblock =>
    refine ⟨?_, by simpa using h⟩
    rintro b rfl
    cases hblock

/-- Lines use what is known in front of them, and what has been defined above since then. -/
def Resolved : List Value → List Line → Prop
  | _, [] => True
  | known, line :: ls => (∀ v ∈ line.operands, v ∈ known) ∧ Resolved (line.known known) ls

theorem resolved_share (s : Listing) (op : Op) : Resolved [] (share s op) := by
  cases op with
  | mark l => cases ht : s.terminated <;> simp [share, row, control, ht, Resolved, Line.operands]
  | _ => simp [share, row, control, Resolved, Line.operands, Line.known, Line.block?, Line.result?]

theorem Resolved.used {known : List Value} {before after : List Line} {line : Line} {v : Value}
    (h : Resolved known (before ++ line :: after)) (hv : v ∈ line.operands) :
    (v ∈ known ∧ ∀ b, .block b ∉ before) ∨
      ∃ front definition between, before = front ++ definition :: between ∧ definition.result? = some v ∧
        ∀ b, .block b ∉ between := by
  induction before generalizing known with
  | nil => exact .inl ⟨h.1 v hv, fun b => List.not_mem_nil⟩
  | cons first before ih =>
    rcases ih h.2 with ⟨hknown, hbetween⟩ | ⟨front, definition, between, rfl, hresult, hbetween⟩
    · obtain ⟨hblock, hresult | hbefore⟩ := mem_known hknown
      · exact .inr ⟨[], first, before, rfl, hresult, hbetween⟩
      · refine .inl ⟨hbefore, fun b hb => ?_⟩
        rcases List.mem_cons.1 hb with hfirst | hb
        · exact hblock b hfirst.symm
        · exact hbetween b hb
    · exact .inr ⟨first :: front, definition, between, rfl, hresult, hbetween⟩

theorem usedInBlock_of_resolved {ls : List Line} (h : Resolved [] ls) : UsedInBlock ls := by
  rintro before line after rfl v hv
  rcases h.used hv with ⟨hknown, -⟩ | hdefined
  · cases hknown
  · exact hdefined

/-! ## What all of them write -/

/-- The lines of each operation. -/
def shares : Listing → List Op → List (List Line)
  | _, [] => []
  | s, op :: code => share s op :: shares (s.op op) code

theorem length_shares (s : Listing) (code : List Op) : (shares s code).length = code.length := by
  induction code generalizing s with
  | nil => rfl
  | cons op code ih => rw [shares, List.length_cons, ih, List.length_cons]

theorem flatten_shares (s : Listing) (code : List Op) : (shares s code).flatten = written s code := by
  induction code generalizing s with
  | nil => rfl
  | cons op code ih => rw [shares, List.flatten_cons, ih, share, written, List.append_assoc]

theorem shares_take (s : Listing) (code : List Op) (k : Nat) : shares s (code.take k) = (shares s code).take k := by
  induction code generalizing s k with
  | nil => simp [shares]
  | cons op code ih =>
    cases k with
    | zero => rfl
    | succ k => rw [List.take_succ_cons, shares, ih, shares, List.take_succ_cons]

theorem exists_share {s : Listing} {code : List Op} {ls : List Line} (h : ls ∈ shares s code) :
    ∃ t op, ls = share t op := by
  induction code generalizing s with
  | nil => cases h
  | cons op code ih =>
    rcases List.mem_cons.1 h with rfl | h
    · exact ⟨s, op, rfl⟩
    · exact ih h

/-- Numbers of which each operation takes the next ones are taken in a row. -/
theorem numbers_shares {number? : Line → Option Nat} {next : Listing → Nat}
    (hshare : ∀ s op, ∃ n, (share s op).filterMap number? = List.range' (next s) n ∧ next (s.op op) = next s + n)
    (s : Listing) (code : List Op) : ∃ n, (shares s code).flatten.filterMap number? = List.range' (next s) n := by
  induction code generalizing s with
  | nil => exact ⟨0, rfl⟩
  | cons op code ih =>
    obtain ⟨n, hfirst, hnext⟩ := hshare s op
    obtain ⟨m, hrest⟩ := ih (s.op op)
    refine ⟨n + m, ?_⟩
    rw [shares, List.flatten_cons, List.filterMap_append, hfirst, hrest, hnext, List.range'_append_1]

theorem text_singleAssignment (code : List Op) :
    ∃ pieces : List (List Line), pieces.length = code.length ∧
      (∀ k ≤ code.length, read? (text (code.take k)) = some (pieces.take k).flatten) ∧
      (∃ n, pieces.flatten.filterMap Line.result? = List.range n) ∧
      (∃ n, pieces.flatten.filterMap Line.loopEnd? = List.range n) ∧
      ∀ piece ∈ pieces, UsedInBlock piece ∧ ∀ line ∈ piece, line.NamesValues := by
  refine ⟨shares .start code, length_shares .start code, fun k _ => ?_, ?_, ?_, fun piece hpiece => ?_⟩
  · rw [read?_text, lines_eq_written, ← flatten_shares, shares_take]
  · obtain ⟨n, hn⟩ := numbers_shares results_share .start code
    exact ⟨n, hn.trans (List.range_eq_range' ..).symm⟩
  · obtain ⟨n, hn⟩ := numbers_shares loopEnds_share .start code
    exact ⟨n, hn.trans (List.range_eq_range' ..).symm⟩
  · obtain ⟨s, op, rfl⟩ := exists_share hpiece
    exact ⟨usedInBlock_of_resolved (resolved_share s op), fun line _ => namesValues line⟩

/-- Behind a conditional jump, without a tape, and with one label placed twice. -/
example :
    let ls := lines [.jumpIfNonzero ⟨7⟩, .halt, .mark ⟨7⟩, .mark ⟨7⟩, .input, .jumpIfNonzero ⟨7⟩]
    ls.filterMap Line.result? = List.range 14 ∧ ls.filterMap Line.loopEnd? = [0, 1] := by
  decide

end Brainfuck.Llvm
