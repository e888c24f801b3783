import Brainfuck.Proofs.Code
import Brainfuck.Proofs.Coalescing
import Brainfuck.Source.RunLength
import Mathlib.Data.List.SplitBy
/-!
# The instructions of a source are its run lengths

`instructionsOf_eq_runLengthForm`: merging neighbours and dropping what cancels out gives one instruction for
each maximal run. `Cursor.pull_eq`: a cursor hands out the same instructions, however often it is asked.
`pulls_runLengthForm` is both for a source, with every sum on the way checked against the length of its text.
-/

namespace Brainfuck

/-! ## Commands -/

theorem command_cases (c : Char) :
    c = '+' ∨ c = '-' ∨ c = '>' ∨ c = '<' ∨ c = ',' ∨ c = '.' ∨ c = '[' ∨ c = ']' ∨
      Instruction.ofChar? c = none ∧ isCommand c = false := by
  unfold Instruction.ofChar?
  split
  case h_9 => simp_all [isCommand, isCellChange, isHeadMove]
  all_goals simp

theorem isSome_ofChar (c : Char) : (Instruction.ofChar? c).isSome = isCommand c := by
  rcases command_cases c with rfl | rfl | rfl | rfl | rfl | rfl | rfl | rfl | ⟨hnone, hcommand⟩
  case inr.inr.inr.inr.inr.inr.inr.inr => rw [hnone, hcommand]; rfl
  all_goals rfl

/-- A command changes the cell, moves the head, or merges with nothing. -/
theorem ofChar_kinds {c : Char} {i : Instruction} (h : Instruction.ofChar? c = some i) :
    (isCellChange c = true ∧ isHeadMove c = false ∧ i = .increment (excess '+' '-' [c])) ∨
      (isCellChange c = false ∧ isHeadMove c = true ∧ i = .moveHead (excess '>' '<' [c])) ∨
      (isCellChange c = false ∧ isHeadMove c = false ∧ i.isEffective = true ∧
        ∀ j : Instruction, i.merge? j = none ∧ j.merge? i = none) := by
  rcases command_cases c with rfl | rfl | rfl | rfl | rfl | rfl | rfl | rfl | ⟨hnone, -⟩
  case inl | inr.inl => cases h; exact .inl ⟨rfl, rfl, rfl⟩
  case inr.inr.inl | inr.inr.inr.inl => cases h; exact .inr (.inl ⟨rfl, rfl, rfl⟩)
  case inr.inr.inr.inr.inr.inr.inr.inr => rw [hnone] at h; cases h
  all_goals
    cases h
    exact .inr (.inr ⟨rfl, rfl, rfl, fun j => ⟨rfl, by cases j <;> rfl⟩⟩)

/-! ## Runs -/

/-- The instruction of a run, also where its counts cancel out. -/
def wholeRun? : List Char → Option Instruction
  | [] => none
  | c :: run =>
    if isCellChange c then some (.increment (excess '+' '-' (c :: run)))
    else if isHeadMove c then some (.moveHead (excess '>' '<' (c :: run)))
    else Instruction.ofChar? c

theorem excess_cons (more less c : Char) (run : List Char) :
    excess more less (c :: run) = excess more less [c] + excess more less run := by
  simp only [excess, List.count_cons, List.count_nil, beq_iff_eq]
  push_cast
  omega

theorem wholeRun?_singleton (c : Char) : wholeRun? [c] = Instruction.ofChar? c := by
  rw [wholeRun?]
  rcases command_cases c with rfl | rfl | rfl | rfl | rfl | rfl | rfl | rfl | ⟨hnone, hcommand⟩
  case inr.inr.inr.inr.inr.inr.inr.inr => simp_all [isCommand]
  all_goals rfl

theorem exists_wholeRun {c : Char} (h : isCommand c = true) (run : List Char) :
    ∃ i, wholeRun? (c :: run) = some i := by
  rw [wholeRun?]
  split
  · exact ⟨_, rfl⟩
  · split
    · exact ⟨_, rfl⟩
    · exact Option.isSome_iff_exists.1 ((isSome_ofChar c).trans h)

theorem not_isHeadMove {c : Char} (h : isCellChange c = true) : isHeadMove c = false := by
  simp only [isCellChange, Bool.or_eq_true, decide_eq_true_eq] at h
  rcases h with rfl | rfl <;> rfl

theorem wholeRun_kinds {c : Char} {run : List Char} {i : Instruction} (h : wholeRun? (c :: run) = some i) :
    (isCellChange c = true ∧ isHeadMove c = false ∧ i = .increment (excess '+' '-' (c :: run))) ∨
      (isCellChange c = false ∧ isHeadMove c = true ∧ i = .moveHead (excess '>' '<' (c :: run))) ∨
      (isCellChange c = false ∧ isHeadMove c = false ∧ ∀ j : Instruction, j.merge? i = none) := by
  rw [wholeRun?] at h
  split at h
  next hcell => cases h; exact .inl ⟨hcell, not_isHeadMove hcell, rfl⟩
  next hcell =>
    split at h
    next hhead => cases h; exact .inr (.inl ⟨by simpa using hcell, hhead, rfl⟩)
    next hhead =>
      rcases ofChar_kinds h with ⟨hc, -⟩ | ⟨-, hc, -⟩ | ⟨hc, hh, -, hnone⟩
      · contradiction
      · contradiction
      · exact .inr (.inr ⟨hc, hh, fun j => (hnone j).2⟩)

/-- A command merges into the instruction of a run just when it belongs to the run. -/
theorem merge?_wholeRun {a b : Char} {i j : Instruction} {run : List Char} (hi : Instruction.ofChar? a = some i)
    (hj : wholeRun? (b :: run) = some j) :
    i.merge? j = if sameRun a b then wholeRun? (a :: b :: run) else none := by
  rcases ofChar_kinds hi with ⟨hac, hah, rfl⟩ | ⟨hac, hah, rfl⟩ | ⟨hac, hah, -, hnone⟩
  · rcases wholeRun_kinds hj with ⟨hbc, hbh, rfl⟩ | ⟨hbc, hbh, rfl⟩ | ⟨hbc, hbh, hnone⟩
    · simp [sameRun, wholeRun?, excess_cons _ _ a (b :: run), hac, hbc, Instruction.merge?]
    · simp [sameRun, hah, hbc, Instruction.merge?]
    · simp [sameRun, hah, hbc, hnone]
  · rcases wholeRun_kinds hj with ⟨hbc, hbh, rfl⟩ | ⟨hbc, hbh, rfl⟩ | ⟨hbc, hbh, hnone⟩
    · simp [sameRun, hac, hbh, Instruction.merge?]
    · simp [sameRun, wholeRun?, excess_cons _ _ a (b :: run), hac, hah, hbh, Instruction.merge?]
    · simp [sameRun, hac, hbh, hnone]
  · simp [sameRun, hac, hah, (hnone j).1]

theorem instructionOfRun?_eq (run : List Char) :
    instructionOfRun? run = (wholeRun? run).filter Instruction.isEffective := by
  cases run with
  | nil => rfl
  | cons c run =>
    rw [instructionOfRun?, wholeRun?]
    split
    · by_cases h0 : excess '+' '-' (c :: run) = 0 <;> simp [h0, Instruction.isEffective, Option.filter]
    · split
      · by_cases h0 : excess '>' '<' (c :: run) = 0 <;> simp [h0, Instruction.isEffective, Option.filter]
      · cases h : Instruction.ofChar? c with
        | none => rfl
        | some i =>
          rcases ofChar_kinds h with ⟨hc, -⟩ | ⟨-, hc, -⟩ | ⟨-, -, he, -⟩
          · contradiction
          · contradiction
          · simp [Option.filter, he]

/-! ## Merging follows the runs -/

/-- An element joins the first piece behind it, or it is a piece of its own. -/
theorem splitBy_cons {α : Type} (r : α → α → Bool) (a b : α) {run text : List α} {runs : List (List α)}
    (h : text.splitBy r = (b :: run) :: runs) :
    (a :: text).splitBy r = if r a b then (a :: b :: run) :: runs else [a] :: (b :: run) :: runs := by
  obtain ⟨rfl, hne, hchain, happart⟩ := List.splitBy_eq_iff.1 h
  split
  next hab =>
    refine List.splitBy_eq_iff.2 ⟨by simp, by simpa using hne, fun m hm => ?_, ?_⟩
    · rcases List.mem_cons.1 hm with rfl | hm
      · exact List.isChain_cons_cons.2 ⟨hab, hchain _ List.mem_cons_self⟩
      · exact hchain m (List.mem_cons_of_mem _ hm)
    · rw [List.isChain_cons] at happart ⊢
      exact ⟨by simpa using happart.1, happart.2⟩
  next hab =>
    have hstart := List.splitBy_append (r := r) (l := [a]) (m := ((b :: run) :: runs).flatten)
      (by simpa using hab)
    rw [h] at hstart
    exact hstart

theorem coalesce_commands {text : List Char} (h : ∀ c ∈ text, isCommand c = true) :
    coalesce (text.filterMap Instruction.ofChar?) = (text.splitBy sameRun).filterMap wholeRun? := by
  induction text with
  | nil => rfl
  | cons a text ih =>
    have hrest : ∀ c ∈ text, isCommand c = true := fun c hc => h c (List.mem_cons_of_mem _ hc)
    obtain ⟨i, hi⟩ := Option.isSome_iff_exists.1 ((isSome_ofChar a).trans (h a List.mem_cons_self))
    rw [List.filterMap_cons_some hi, coalesce, ih hrest]
    rcases hsplit : text.splitBy sameRun with _ | ⟨_ | ⟨b, run⟩, runs⟩
    · obtain rfl := List.splitBy_eq_nil.1 hsplit
      have hlone : [a].splitBy sameRun = [[a]] := rfl
      rw [hlone, List.filterMap_cons_some ((wholeRun?_singleton a).trans hi)]
      rfl
    · exact absurd (hsplit ▸ List.mem_cons_self) (List.nil_notMem_splitBy sameRun text)
    · have hb : b ∈ text := by
        rw [← List.flatten_splitBy sameRun text, hsplit]
        simp
      obtain ⟨j, hj⟩ := exists_wholeRun (hrest b hb) run
      have hlone : wholeRun? [a] = some i := (wholeRun?_singleton a).trans hi
      have hmerge := merge?_wholeRun hi hj
      rw [splitBy_cons sameRun a b hsplit, List.filterMap_cons_some hj, mergeCons]
      by_cases hsame : sameRun a b = true
      · obtain ⟨k, hk⟩ := exists_wholeRun (h a List.mem_cons_self) (b :: run)
        rw [if_pos hsame, hk] at hmerge
        rw [if_pos hsame, List.filterMap_cons_some hk, hmerge]
      · rw [if_neg hsame] at hmerge
        rw [if_neg hsame, List.filterMap_cons_some hlone, List.filterMap_cons_some hj, hmerge]

theorem instructionsOf_eq_runLengthForm (text : List Char) : instructionsOf text = runLengthForm text := by
  have hcommands : text.filterMap Instruction.ofChar? =
      (text.filter isCommand).filterMap Instruction.ofChar? := by
    rw [List.filterMap_filter]
    congr 1
    funext c
    have hc := isSome_ofChar c
    cases hi : Instruction.ofChar? c <;> rw [hi] at hc <;> simp [← hc]
  rw [instructionsOf_eq, hcommands, coalesce_commands (fun c hc => List.of_mem_filter hc), runLengthForm,
    List.filter_filterMap]
  congr 1
  funext run
  exact (instructionOfRun?_eq run).symm

/-! ## One at a time -/

namespace Cursor

/-- The instructions a cursor has not handed out yet. -/
def remaining (c : Cursor) : List Instruction :=
  (coalesce (c.pending.toList ++ c.rest.filterMap Instruction.ofChar?)).filter Instruction.isEffective

theorem takeFrom_eq (pending : Option Instruction) (rest : List Char) :
    (takeFrom pending rest).1 = (remaining ⟨pending, rest⟩).head? ∧
      (takeFrom pending rest).2.remaining = (remaining ⟨pending, rest⟩).tail := by
  -- Along the characters that are read: each leaves what remains, or finishes the first of it.
  fun_induction takeFrom pending rest with
  | case1 => exact ⟨rfl, rfl⟩
  | case2 run => cases he : run.isEffective <;> simp [remaining, coalesce, mergeCons, he]
  | case3 c rest ih =>
    have hremaining : remaining ⟨none, c :: rest⟩ = remaining ⟨Instruction.ofChar? c, rest⟩ := by
      cases hi : Instruction.ofChar? c <;> simp [remaining, hi]
    rw [hremaining]
    exact ih
  | case4 run c rest hi ih =>
    have hremaining : remaining ⟨some run, c :: rest⟩ = remaining ⟨some run, rest⟩ := by
      simp [remaining, hi]
    rw [hremaining]
    exact ih
  | case5 run c rest i hi merged hm ih =>
    have hremaining : remaining ⟨some run, c :: rest⟩ = remaining ⟨some merged, rest⟩ := by
      simp [remaining, hi, coalesce, mergeCons_mergeCons, hm]
    rw [hremaining]
    exact ih
  | case6 run c rest i hi hm he =>
    simp [remaining, hi, coalesce, mergeCons_mergeCons, hm, he]
  | case7 run c rest i hi hm he ih =>
    have hremaining : remaining ⟨some run, c :: rest⟩ = remaining ⟨some i, rest⟩ := by
      simp [remaining, hi, coalesce, mergeCons_mergeCons, hm, he]
    rw [hremaining]
    exact ih

theorem pull_eq (n : Nat) (c : Cursor) : c.pull n = (List.range n).map fun i => c.remaining[i]? := by
  induction n generalizing c with
  | zero => rfl
  | succ n ih =>
    obtain ⟨hitem, hrest⟩ := takeFrom_eq c.pending c.rest
    have hpull : c.pull (n + 1) = c.next.1 :: c.next.2.pull n := rfl
    rw [hpull, ih, List.range_succ_eq_map, List.map_cons, List.map_map, next, hitem, hrest]
    simp [Function.comp_def, List.head?_eq_getElem?, List.getElem?_tail]

theorem remaining_start (source : Source) : (start source).remaining = source.instructions := by
  rw [remaining, start, Source.instructions, instructionsOf_eq]
  rfl

end Cursor

/-! ## No sum is large -/

/-- The size of what an instruction counts. -/
def Instruction.magnitude : Instruction → Nat
  | increment amount => amount.natAbs
  | moveHead offset => offset.natAbs
  | _ => 0

namespace Cursor

/-- `takeFrom` with every sum checked: there is no answer once a sum exceeds the limit. -/
def takeWithin (limit : Nat) : Option Instruction → List Char → Option (Option Instruction × Cursor)
  | none, [] => some (none, ⟨none, []⟩)
  | some run, [] => some (if run.isEffective then some run else none, ⟨none, []⟩)
  | none, c :: rest => takeWithin limit (Instruction.ofChar? c) rest
  | some run, c :: rest =>
    match Instruction.ofChar? c with
    | none => takeWithin limit (some run) rest
    | some i =>
      match run.merge? i with
      | some merged => if merged.magnitude ≤ limit then takeWithin limit (some merged) rest else none
      | none => if run.isEffective then some (some run, ⟨some i, rest⟩) else takeWithin limit (some i) rest

/-- `pull` with every sum checked. -/
def pullWithin (limit : Nat) : Nat → Cursor → Option (List (Option Instruction))
  | 0, _ => some []
  | n + 1, c => do
    let (item, c') ← takeWithin limit c.pending c.rest
    let items ← pullWithin limit n c'
    return item :: items

/-- The run in progress and all commands behind it count no further than the limit. -/
def Fits (limit : Nat) (pending : Option Instruction) (rest : List Char) : Prop :=
  (pending.map Instruction.magnitude).getD 0 + rest.length ≤ limit

theorem magnitude_ofChar {c : Char} {i : Instruction} (h : Instruction.ofChar? c = some i) : i.magnitude ≤ 1 := by
  rcases command_cases c with rfl | rfl | rfl | rfl | rfl | rfl | rfl | rfl | ⟨hnone, -⟩
  case inr.inr.inr.inr.inr.inr.inr.inr => rw [hnone] at h; cases h
  all_goals cases h; decide

theorem magnitude_merge {i j merged : Instruction} (h : i.merge? j = some merged) :
    merged.magnitude ≤ i.magnitude + j.magnitude := by
  cases i <;> cases j <;> cases h
  case increment.increment a b => exact Int.natAbs_add_le a b
  case moveHead.moveHead a b => exact Int.natAbs_add_le a b

theorem takeWithin_eq {limit : Nat} {pending : Option Instruction} {rest : List Char}
    (h : Fits limit pending rest) :
    takeWithin limit pending rest = some (takeFrom pending rest) ∧
      Fits limit (takeFrom pending rest).2.pending (takeFrom pending rest).2.rest := by
  fun_induction takeFrom pending rest with
  | case1 => exact ⟨rfl, Nat.zero_le _⟩
  | case2 => exact ⟨rfl, Nat.zero_le _⟩
  | case3 c rest ih =>
    rw [takeWithin]
    apply ih
    cases hi : Instruction.ofChar? c with
    | none => simp [Fits] at h ⊢; omega
    | some i =>
      have := magnitude_ofChar hi
      simp [Fits] at h ⊢
      omega
  | case4 run c rest hi ih =>
    rw [takeWithin, hi]
    apply ih
    simp [Fits] at h ⊢
    omega
  | case5 run c rest i hi merged hm ih =>
    have hone := magnitude_ofChar hi
    have hsum := magnitude_merge hm
    have hfits : Fits limit (some merged) rest := by
      simp [Fits] at h ⊢
      omega
    have hwithin : merged.magnitude ≤ limit := Nat.le_trans (Nat.le_add_right _ _) hfits
    rw [takeWithin, hi]
    simp only [hm, if_pos hwithin]
    exact ih hfits
  | case6 run c rest i hi hm he =>
    have hone := magnitude_ofChar hi
    rw [takeWithin, hi]
    simp only [hm, he, if_true, true_and]
    simp [Fits] at h ⊢
    omega
  | case7 run c rest i hi hm he ih =>
    have hone := magnitude_ofChar hi
    rw [takeWithin, hi]
    simp only [hm, he]
    apply ih
    simp [Fits] at h ⊢
    omega

theorem pullWithin_eq {limit : Nat} (n : Nat) {c : Cursor} (h : Fits limit c.pending c.rest) :
    pullWithin limit n c = some (c.pull n) := by
  induction n generalizing c with
  | zero => rfl
  | succ n ih =>
    obtain ⟨htake, hfits⟩ := takeWithin_eq h
    rw [pullWithin, htake]
    simp [ih hfits, pull, next]

end Cursor

/-! ## Sources -/

theorem pulls_runLengthForm (text : String) (source : Source) (h : Source.ofText text = .ok source) (n : Nat) :
    (Cursor.start source).pull n = (List.range n).map (fun i => (runLengthForm text.toList)[i]?) ∧
      source.instructions = runLengthForm text.toList ∧
      Cursor.pullWithin text.length n (.start source) = some ((Cursor.start source).pull n) := by
  obtain rfl := Source.text_of_ofText h
  have hform : source.instructions = runLengthForm source.text.toList := instructionsOf_eq_runLengthForm _
  refine ⟨?_, hform, ?_⟩
  · rw [Cursor.pull_eq, Cursor.remaining_start, hform]
  · apply Cursor.pullWithin_eq
    simp [Cursor.Fits, Cursor.start, String.length_toList]

theorem pulls_runLengthForm_cancelled : ∃ source, Source.ofText "+>< +x[--+]." = .ok source ∧
    (Cursor.start source).pull 7 = [some (.increment 1), some (.increment 1), some .startLoop,
      some (.increment (-1)), some .finishLoop, some .output, none] := by
  let source : Source := ⟨"+>< +x[--+].", by decide⟩
  have hsource : Source.ofText "+>< +x[--+]." = .ok source := source.ofText_text
  refine ⟨source, hsource, ?_⟩
  rw [(pulls_runLengthForm _ source hsource 7).1]
  decide

end Brainfuck
