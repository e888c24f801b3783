import Brainfuck.Proofs.Balance
import Brainfuck.Source.Instructions
/-!
# The instructions of a source are an optimised block

`Source.exists_block`: what a source says, command by command, is a block `b` written flat, and its
instructions are `b.optimised` written flat. The optimised block has the same loops; only between them are
runs merged and dropped. `Source.moveHead_le`: no move of it reaches further than the text is long.
-/

namespace Brainfuck

/-! ## Merging from the right -/

/-- Puts an instruction in front of merged ones. -/
def mergeCons (i : Instruction) : List Instruction → List Instruction
  | [] => [i]
  | next :: rest =>
    match i.merge? next with
    | some merged => merged :: rest
    | none => i :: next :: rest

def coalesce : List Instruction → List Instruction
  | [] => []
  | i :: rest => mergeCons i (coalesce rest)

/-- Two instructions in front of merged ones merge with each other first. -/
theorem mergeCons_mergeCons (i j : Instruction) (program : List Instruction) :
    mergeCons i (mergeCons j program) =
      match i.merge? j with
      | some merged => mergeCons merged program
      | none => i :: mergeCons j program := by
  rcases program with _ | ⟨k, rest⟩
  · cases i <;> cases j <;> rfl
  · cases i <;> cases j <;> cases k <;> simp [mergeCons, Instruction.merge?, Int.add_assoc]

theorem foldl_pushMerged (last : Instruction) (earlier program : List Instruction) :
    (program.foldl pushMerged (last :: earlier)).reverse =
      earlier.reverse ++ mergeCons last (coalesce program) := by
  induction program generalizing last earlier with
  | nil => simp [coalesce, mergeCons]
  | cons i program ih =>
    rw [List.foldl_cons, pushMerged, coalesce, mergeCons_mergeCons]
    cases last.merge? i with
    | some merged => exact ih merged earlier
    | none => simp [ih]

theorem instructionsOf_eq (text : List Char) :
    instructionsOf text = (coalesce (text.filterMap Instruction.ofChar?)).filter Instruction.isEffective := by
  rw [instructionsOf]
  cases text.filterMap Instruction.ofChar? with
  | nil => rfl
  | cons i program => rw [List.foldl_cons, pushMerged, foldl_pushMerged]; rfl

/-! ## Merging in a block -/

namespace Block

/-- Puts an increment in front of a block that may start with one. -/
def addIncrement (amount : Int) : Block → Block
  | increment more next => increment (amount + more) next
  | b => increment amount b

/-- Puts a move in front of a block that may start with one. -/
def addMove (offset : Int) : Block → Block
  | moveHead more next => moveHead (offset + more) next
  | b => moveHead offset b

/-- Neighbours that count the same thing are merged. -/
def coalesced : Block → Block
  | done => done
  | increment amount next => next.coalesced.addIncrement amount
  | moveHead offset next => next.coalesced.addMove offset
  | input next => input next.coalesced
  | output next => output next.coalesced
  | loop body next => loop body.coalesced next.coalesced

/-- Counts of zero are dropped. -/
def effective : Block → Block
  | done => done
  | increment amount next => if amount = 0 then next.effective else increment amount next.effective
  | moveHead offset next => if offset = 0 then next.effective else moveHead offset next.effective
  | input next => input next.effective
  | output next => output next.effective
  | loop body next => loop body.effective next.effective

def optimised (b : Block) : Block := b.coalesced.effective

end Block

/-- Nothing merges into the end of a body, nor into the end of a program. -/
def Apart (program : List Instruction) : Prop := ∀ i, mergeCons i (coalesce program) = i :: coalesce program

theorem apart_nil : Apart [] := fun _ => rfl

theorem coalesce_separator {i : Instruction} (hi : ∀ j, i.merge? j = none) (program : List Instruction) :
    coalesce (i :: program) = i :: coalesce program := by
  rw [coalesce]
  cases coalesce program <;> simp [mergeCons, hi]

theorem apart_finish (program : List Instruction) : Apart (.finishLoop :: program) := by
  intro i
  rw [coalesce_separator (fun _ => rfl)]
  cases i <;> rfl

theorem coalesce_flatten_append (b : Block) {after : List Instruction} (h : Apart after) :
    coalesce (b.flatten ++ after) = b.coalesced.flatten ++ coalesce after := by
  induction b generalizing after with
  | done => rfl
  | increment amount next ih =>
    rw [Block.flatten, List.cons_append, coalesce, ih h, Block.coalesced]
    -- Only a count at the end of the block meets what stands behind it.
    cases hn : next.coalesced with
    | done => exact h _
    | _ => rfl
  | moveHead offset next ih =>
    rw [Block.flatten, List.cons_append, coalesce, ih h, Block.coalesced]
    cases hn : next.coalesced with
    | done => exact h _
    | _ => rfl
  | input next ih | output next ih =>
    rw [Block.flatten, List.cons_append, coalesce_separator (fun _ => rfl), ih h]
    rfl
  | loop body next ihb ihn =>
    -- What follows the body starts with the end of the loop.
    rw [Block.flatten, List.cons_append, List.cons_append, List.append_assoc,
      coalesce_separator (fun _ => rfl), List.cons_append, ihb (apart_finish _),
      coalesce_separator (fun _ => rfl), ihn h]
    simp [Block.coalesced, Block.flatten]

theorem filter_flatten (b : Block) : b.flatten.filter Instruction.isEffective = b.effective.flatten := by
  induction b with
  | done => rfl
  | increment count next ih | moveHead count next ih =>
    rw [Block.effective]
    by_cases h0 : count = 0 <;> simp [Block.flatten, List.filter_cons, Instruction.isEffective, h0, ih]
  | input next ih | output next ih =>
    simp [Block.flatten, Block.effective, List.filter_cons, Instruction.isEffective, ih]
  | loop body next ihb ihn =>
    simp [Block.flatten, Block.effective, List.filter_cons, Instruction.isEffective, ihb, ihn]

/-! ## Sources -/

theorem nesting_ofChar {c : Char} {i : Instruction} (h : Instruction.ofChar? c = some i) (ho : c ≠ '[')
    (hc : c ≠ ']') : i.nesting = 0 := by
  unfold Instruction.ofChar? at h
  split at h <;> first | contradiction | (cases h; rfl)

theorem closesLoops_of_openBrackets {text : List Char} {position : Nat} {opened : List Nat}
    (h : openBrackets text position opened = .ok []) :
    closesLoops (text.filterMap Instruction.ofChar?) opened.length = true := by
  induction text generalizing position opened with
  | nil =>
    simp only [openBrackets, Except.ok.injEq] at h
    simp [h, closesLoops]
  | cons c rest ih =>
    simp only [openBrackets] at h
    split at h
    next hc =>
      subst hc
      exact ih h
    next hopen =>
      split at h
      next hc =>
        subst hc
        cases opened with
        | nil => cases h
        | cons _ outer => exact ih h
      next hclose =>
        rw [List.filterMap_cons]
        split
        next => exact ih h
        next i hi =>
          rw [closesLoops_other _ _ (nesting_ofChar hi hopen hclose)]
          exact ih h

namespace Source

theorem unmerged_balanced (source : Source) : Balanced source.unmerged := by
  rw [balanced_iff]
  have hvalid := source.valid
  rw [SourceError.ofText] at hvalid
  split at hvalid
  next => cases hvalid
  next =>
    split at hvalid
    next => cases hvalid
    next h => exact closesLoops_of_openBrackets h
    next => cases hvalid

theorem exists_block (source : Source) :
    ∃ b : Block, source.unmerged = b.flatten ∧ source.instructions = b.optimised.flatten := by
  obtain ⟨b, hb⟩ := (balanced_iff_flatten _).1 source.unmerged_balanced
  refine ⟨b, hb, ?_⟩
  have hc := coalesce_flatten_append b apart_nil
  rw [List.append_nil, coalesce, List.append_nil] at hc
  rw [instructions, instructionsOf_eq, ← unmerged, hb, hc, filter_flatten, Block.optimised]

theorem instructions_balanced (source : Source) : Balanced source.instructions := by
  obtain ⟨b, -, hb⟩ := source.exists_block
  rw [hb]
  exact flatten_balanced _

end Source

/-! ## How far moves reach -/

/-- The places all moves of a program pass, however often. -/
def reach : List Instruction → Nat
  | [] => 0
  | .moveHead offset :: rest => offset.natAbs + reach rest
  | _ :: rest => reach rest

theorem le_reach {program : List Instruction} {offset : Int} (h : .moveHead offset ∈ program) :
    offset ≤ reach program := by
  induction program with
  | nil => cases h
  | cons i rest ih =>
    rcases List.mem_cons.1 h with rfl | h
    · simp only [reach]; omega
    · have := ih h
      cases i <;> simp only [reach] <;> omega

theorem reach_mergeCons (i : Instruction) (program : List Instruction) :
    reach (mergeCons i program) ≤ reach (i :: program) := by
  rcases program with _ | ⟨j, rest⟩
  · exact Nat.le_refl _
  · cases i <;> cases j <;> simp only [mergeCons, Instruction.merge?, reach] <;> omega

theorem reach_cons_le {i : Instruction} {p q : List Instruction} (h : reach p ≤ reach q) :
    reach (i :: p) ≤ reach (i :: q) := by
  cases i <;> simp only [reach] <;> omega

theorem reach_coalesce (program : List Instruction) : reach (coalesce program) ≤ reach program := by
  induction program with
  | nil => exact Nat.le_refl _
  | cons i rest ih => exact Nat.le_trans (reach_mergeCons i _) (reach_cons_le ih)

theorem reach_ofChar {c : Char} {i : Instruction} (h : Instruction.ofChar? c = some i)
    (program : List Instruction) : reach (i :: program) ≤ reach program + 1 := by
  unfold Instruction.ofChar? at h
  split at h <;> cases h <;> simp only [reach] <;> omega

theorem reach_filterMap (text : List Char) : reach (text.filterMap Instruction.ofChar?) ≤ text.length := by
  induction text with
  | nil => exact Nat.le_refl _
  | cons c rest ih =>
    rw [List.filterMap_cons, List.length_cons]
    split
    next => omega
    next i hi =>
      have := reach_ofChar hi (rest.filterMap Instruction.ofChar?)
      omega

namespace Source

theorem moveHead_le_unmerged (source : Source) {offset : Int} (h : .moveHead offset ∈ source.unmerged) :
    offset ≤ source.text.length := by
  have hr := reach_filterMap source.text.toList
  have := le_reach h
  rw [unmerged] at this
  rw [String.length_toList] at hr
  omega

theorem moveHead_le (source : Source) {offset : Int} (h : .moveHead offset ∈ source.instructions) :
    offset ≤ source.text.length := by
  rw [instructions, instructionsOf_eq] at h
  have hmem := le_reach (List.mem_filter.1 h).1
  have hr := reach_filterMap source.text.toList
  have hc := reach_coalesce (source.text.toList.filterMap Instruction.ofChar?)
  rw [String.length_toList] at hr
  omega

end Source

end Brainfuck
