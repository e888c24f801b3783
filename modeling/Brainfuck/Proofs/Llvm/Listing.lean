import Brainfuck.Code.Llvm.Machine
import Brainfuck.Proofs.Lowering
/-!
# Where the lines of an operation stand

`lines_split`: the lines of an operation stand in a row, first those that compute, then those that end or
open a block. `branchTo_label` and `branchTo_loopEnd`: a branch goes behind the lines of a mark, or of a
conditional jump.
-/

namespace Brainfuck.Llvm

/-! ## The lines of one operation -/

/-- The lines that lead to the next one, with values counted from `v`. -/
def row (v : Value) : Op → List Line
  | .allocate tapeLength => [.allocateHead, .allocateTape tapeLength, .clearHead]
  | .increment amount =>
    [.loadHead v, .cellAddress (v + 1) v, .loadCell (v + 2) (v + 1),
      .addByte (v + 3) (v + 2) amount.toInt8.toInt, .storeCell (v + 3) (v + 1)]
  | .moveHead offset => [.loadHead v, .addHead (v + 1) v offset, .storeHead (v + 1)]
  | .input =>
    [.loadHead v, .cellAddress (v + 1) v, .getchar (v + 2), .isEof (v + 3) (v + 2),
      .truncate (v + 4) (v + 2), .zeroIf (v + 5) (v + 3) (v + 4), .storeCell (v + 5) (v + 1)]
  | .output =>
    [.loadHead v, .cellAddress (v + 1) v, .loadCell (v + 2) (v + 1), .widen (v + 3) (v + 2),
      .putchar (v + 3)]
  | .jumpIfNonzero _ =>
    [.loadHead v, .cellAddress (v + 1) v, .loadCell (v + 2) (v + 1), .isNonzero (v + 3) (v + 2)]
  | .halt => [.freeTape]
  | .jump _ | .mark _ => []

/-- The lines that end a block, and those that open one. -/
def control (s : Listing) : Op → List Line
  | .jump target => [.branch (.label target)]
  | .mark label =>
    if s.terminated then [.block (.label label)] else [.branch (.label label), .block (.label label)]
  | .jumpIfNonzero target =>
    [.branchIf (s.nextValue + 3) (.label target) (.loopEnd s.nextBlock), .block (.loopEnd s.nextBlock)]
  | .halt => [.returnZero]
  | _ => []

theorem op_lines (s : Listing) (op : Op) :
    (s.op op).lines.toList = s.lines.toList ++ (row s.nextValue op ++ control s op) := by
  obtain ⟨written, nextValue, nextBlock, _ | _⟩ := s <;> cases op <;>
    simp [Listing.op, Listing.write, Listing.enter, Listing.terminate, Listing.branchIf, row, control]

/-- Is the operation one that neither jumps nor is jumped to? -/
def computes : Op → Bool
  | .jump _ | .mark _ | .jumpIfNonzero _ | .halt => false
  | _ => true

theorem control_of_computes {op : Op} (h : computes op = true) (s : Listing) : control s op = [] := by
  cases op <;> first | rfl | cases h

theorem row_of_computes {op : Op} (h : computes op = true) (v : Value) : ∃ j, (row v op).length = j + 1 := by
  cases op <;> first | exact ⟨_, rfl⟩ | cases h

theorem terminated_of_computes {op : Op} (h : computes op = true) (s : Listing) :
    (s.op op).terminated = s.terminated := by
  cases op <;> first | rfl | cases h

theorem mark_terminated (s : Listing) (l : Label) : (s.op (.mark l)).terminated = false := by
  obtain ⟨written, nextValue, nextBlock, _ | _⟩ := s <;> rfl

theorem nextValue_mark (s : Listing) (l : Label) : (s.op (.mark l)).nextValue = s.nextValue := by
  obtain ⟨written, nextValue, nextBlock, _ | _⟩ := s <;> rfl

theorem nextBlock_mark (s : Listing) (l : Label) : (s.op (.mark l)).nextBlock = s.nextBlock := by
  obtain ⟨written, nextValue, nextBlock, _ | _⟩ := s <;> rfl

/-! ## All lines -/

/-- The listing of linear code. -/
def listing (code : List Op) : Listing := code.foldl Listing.op .start

theorem lines_eq (code : List Op) : lines code = (listing code).lines.toList := rfl

theorem listing_concat (code : List Op) (op : Op) : listing (code ++ [op]) = (listing code).op op := by
  rw [listing, List.foldl_append]
  rfl

/-- The lines that code is written as from a listing on. -/
def written : Listing → List Op → List Line
  | _, [] => []
  | s, op :: code => row s.nextValue op ++ (control s op ++ written (s.op op) code)

theorem foldl_lines (code : List Op) (s : Listing) :
    (code.foldl Listing.op s).lines.toList = s.lines.toList ++ written s code := by
  induction code generalizing s with
  | nil => simp [written]
  | cons op code ih => rw [List.foldl_cons, ih, op_lines, written]; simp

theorem lines_eq_written (code : List Op) : lines code = written .start code := foldl_lines code .start

/-- The line at which the operation at `k` begins. -/
def place (code : List Op) (k : Nat) : Nat := (listing (code.take k)).lines.toList.length

section Places
variable {code : List Op} {k : Nat} {op : Op} (h : code[k]? = some op)
include h

theorem listing_succ : listing (code.take (k + 1)) = (listing (code.take k)).op op := by
  rw [List.take_add_one, h, ← listing_concat]
  rfl

theorem place_succ : place code (k + 1) =
    place code k + (row (listing (code.take k)).nextValue op).length +
      (control (listing (code.take k)) op).length := by
  rw [place, listing_succ h, op_lines, List.length_append, List.length_append, Nat.add_assoc]
  rfl

theorem lines_split : ∃ rest, lines code = (listing (code.take k)).lines.toList ++
    (row (listing (code.take k)).nextValue op ++ (control (listing (code.take k)) op ++ rest)) := by
  obtain ⟨hlt, hop⟩ := List.getElem?_eq_some_iff.1 h
  have hcode : code = code.take k ++ op :: code.drop (k + 1) := by
    rw [← hop, ← List.drop_eq_getElem_cons hlt, List.take_append_drop]
  refine ⟨written ((listing (code.take k)).op op) (code.drop (k + 1)), ?_⟩
  rw [lines, hcode, List.foldl_append, List.foldl_cons, ← hcode, ← listing, foldl_lines, op_lines]
  simp

/-- A line of control, counted from the first of them. -/
theorem getElem?_control {i : Nat} {line : Line} (hi : (control (listing (code.take k)) op)[i]? = some line) :
    (lines code)[place code k + (row (listing (code.take k)).nextValue op).length + i]? = some line := by
  obtain ⟨rest, hrest⟩ := lines_split h
  have hlt := (List.getElem?_eq_some_iff.1 hi).1
  rw [hrest, ← List.append_assoc, List.getElem?_append_right (by simp [place]), ← hi]
  rw [List.getElem?_append_left (by simp [place]; omega)]
  congr 1
  simp [place]

end Places

/-! ## Blocks -/

def Line.block? : Line → Option Block
  | block name => some name
  | _ => none

/-- The blocks that lines open. -/
def blocks (lines : List Line) : List Block := lines.filterMap Line.block?

theorem blocks_append (p q : List Line) : blocks (p ++ q) = blocks p ++ blocks q := by simp [blocks]

/-- The block that an operation opens. -/
def opened (s : Listing) : Op → List Block
  | .mark label => [.label label]
  | .jumpIfNonzero _ => [.loopEnd s.nextBlock]
  | _ => []

theorem blocks_control (s : Listing) (op : Op) : blocks (control s op) = opened s op := by
  cases op with
  | mark l => cases ht : s.terminated <;> simp only [control, ht] <;> rfl
  | _ => rfl

theorem blocks_op (s : Listing) (op : Op) : blocks (s.op op).lines.toList = blocks s.lines.toList ++ opened s op := by
  have hrow : blocks (row s.nextValue op) = [] := by cases op <;> rfl
  rw [op_lines, blocks_append, blocks_append, hrow, blocks_control, List.nil_append]

theorem nextBlock_le (s : Listing) (op : Op) : s.nextBlock ≤ (s.op op).nextBlock := by
  obtain ⟨written, nextValue, nextBlock, _ | _⟩ := s <;>
    cases op <;> first | exact Nat.le_refl _ | exact Nat.le_succ _

/-- Blocks are opened once: labels are marked once, and the ends of loops are counted. -/
theorem blocks_nodup {code : List Op} (h : (marks code).Nodup) :
    (blocks (lines code)).Nodup ∧ (∀ l, .label l ∈ blocks (lines code) → l ∈ marks code) ∧
      ∀ i, .loopEnd i ∈ blocks (lines code) → i < (listing code).nextBlock := by
  induction code using List.reverseRecOn with
  | nil => simp [lines, Listing.start, blocks]
  | append_singleton code op ih =>
    rw [marks_append] at h
    obtain ⟨hnodup, hlabels, hends⟩ := ih (List.nodup_append.1 h).1
    rw [lines_eq] at hnodup hlabels hends
    rw [lines_eq, listing_concat, blocks_op]
    cases op with
    | mark l =>
      -- A label is marked once, so no block of this name has been opened before.
      have hfresh : l ∉ marks code := fun hmem => by
        simp [List.nodup_append, Op.mark?] at h
        exact h.2 l hmem rfl
      refine ⟨?_, fun l' hl' => ?_, fun i hi => ?_⟩
      · rw [List.nodup_append]
        refine ⟨hnodup, by simp [opened], fun b hb b' hb' hbb => ?_⟩
        obtain rfl := List.mem_singleton.1 hb'
        exact hfresh (hlabels l (hbb ▸ hb))
      · simp only [opened, List.mem_append, List.mem_singleton, Block.label.injEq] at hl'
        rw [marks_append, List.mem_append]
        rcases hl' with hl' | rfl
        · exact .inl (hlabels l' hl')
        · exact .inr (by simp [Op.mark?])
      · simp only [opened, List.mem_append, List.mem_singleton, reduceCtorEq, or_false] at hi
        exact Nat.lt_of_lt_of_le (hends i hi) (nextBlock_le _ _)
    | jumpIfNonzero target =>
      -- The ends opened before carry smaller numbers.
      refine ⟨?_, fun l hl => ?_, fun i hi => ?_⟩
      · rw [List.nodup_append]
        refine ⟨hnodup, by simp [opened], fun b hb b' hb' hbb => ?_⟩
        obtain rfl := List.mem_singleton.1 hb'
        exact absurd (hends _ (hbb ▸ hb)) (Nat.lt_irrefl _)
      · simp only [opened, List.mem_append, List.mem_singleton, reduceCtorEq, or_false] at hl
        rw [marks_append]
        exact List.mem_append_left _ (hlabels l hl)
      · simp only [opened, List.mem_append, List.mem_singleton, Block.loopEnd.injEq] at hi
        rcases hi with hi | rfl
        · exact Nat.lt_succ_of_lt (hends i hi)
        · exact Nat.lt_succ_self _
    | _ =>
      simp only [opened, List.append_nil]
      refine ⟨hnodup, fun l hl => ?_, fun i hi => Nat.lt_of_lt_of_le (hends i hi) (nextBlock_le _ _)⟩
      rw [marks_append]
      exact List.mem_append_left _ (hlabels l hl)

/-! ## Branches -/

section Branches
variable {code : List Op} {k : Nat} {M : Machine}

theorem branchTo_eq (h : (marks code).Nodup) {b : Block} {line : Nat}
    (hline : (lines code)[line]? = some (.block b)) : branchTo (lines code).toArray b M = .next (line + 1) M := by
  have hfind := findIdx?_of_nodup Line.block? (blocks_nodup h).1 hline rfl
  rw [branchTo, blockLine?, List.findIdx?_toArray, hfind]

theorem branchTo_label (h : (marks code).Nodup) {l : Label} (hk : code[k]? = some (.mark l)) :
    branchTo (lines code).toArray (.label l) M = .next (place code (k + 1)) M := by
  -- In front of the block there is a branch to it, unless the block before it has been left already.
  obtain ⟨i, hi, hlen⟩ : ∃ i, (control (listing (code.take k)) (.mark l))[i]? = some (.block (.label l)) ∧
      (control (listing (code.take k)) (.mark l)).length = i + 1 := by
    cases ht : (listing (code.take k)).terminated with
    | true => exact ⟨0, by simp [control, ht], by simp [control, ht]⟩
    | false => exact ⟨1, by simp [control, ht], by simp [control, ht]⟩
  rw [branchTo_eq h (getElem?_control hk hi), place_succ hk, hlen]
  rfl

theorem branchTo_loopEnd (h : (marks code).Nodup) {target : Label}
    (hk : code[k]? = some (.jumpIfNonzero target)) :
    branchTo (lines code).toArray (.loopEnd (listing (code.take k)).nextBlock) M =
      .next (place code (k + 1)) M := by
  have hi : (control (listing (code.take k)) (.jumpIfNonzero target))[1]? =
      some (.block (.loopEnd (listing (code.take k)).nextBlock)) := rfl
  rw [branchTo_eq h (getElem?_control hk hi), place_succ hk]
  rfl

end Branches

end Brainfuck.Llvm
