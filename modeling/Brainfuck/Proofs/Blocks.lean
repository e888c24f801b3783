import Brainfuck.Proofs.Runs
/-!
# A flat run does what its block does

`ends_flatten_iff`: the run of a flattened block ends just as the block completes. `runsForever_flatten_iff`:
it goes on forever just when the block diverges.

Behind the body of a loop the program stands at the end of the loop, which does the same step as its start;
so a pass is followed by the whole loop again.
-/

namespace Brainfuck

open Interpreter (Ends RunsForever)

namespace Interpreter

/-! ## Pieces of a program -/

/-- Behind a piece of the program with the given result: on at `pc`, or at the end of the run. -/
def leaving (pc : Nat) : Except Error Unit → Interpreter → Step
  | .ok (), t => .next pc t
  | .error e, t => .ended (.error e, t)

/-- The piece, wherever it stands in a program, leads from `s` to the given result in `t`. -/
def Leads (piece : List Instruction) (s : Interpreter) (result : Except Error Unit) (t : Interpreter) : Prop :=
  ∀ (before after : List Instruction) (partners : Array Nat),
    loopPartners (before ++ (piece ++ after)) = .ok partners →
    ∃ n, steps (before ++ (piece ++ after)) partners n before.length s =
      leaving (before.length + piece.length) result t

section Pieces
variable {i : Instruction} {s t : Interpreter}

/-- Does the instruction take the state `s` so, wherever it stands? -/
def Takes (i : Instruction) (s : Interpreter) (result : Except Error Unit) (t : Interpreter) : Prop :=
  ∀ (before after : List Instruction) (partners : Array Nat),
    step (before ++ i :: after).toArray partners before.length s = leaving (before.length + 1) result t

theorem getElem?_toArray_append_cons (before after : List Instruction) (i : Instruction) :
    (before ++ i :: after).toArray[before.length]? = some i := by
  rw [List.getElem?_toArray, List.getElem?_append_right (Nat.le_refl _), Nat.sub_self]
  rfl

theorem after_eq (pc : Nat) (result : Except Error Unit) (t : Interpreter) :
    Interpreter.after pc (result, t) = leaving (pc + 1) result t := by
  rcases result with e | ⟨⟩ <;> rfl

theorem takes_increment (amount : Int) (s : Interpreter) :
    Takes (.increment amount) s (.ok ()) (s.increment amount) := by
  intro before after partners
  simp only [step, getElem?_toArray_append_cons, leaving]

theorem takes_moveHead {offset : Int} {result : Except Error Unit} (h : s.moveHead offset = (result, t)) :
    Takes (.moveHead offset) s result t := by
  intro before after partners
  simp only [step, getElem?_toArray_append_cons, h, after_eq]

theorem takes_input {result : Except Error Unit} (h : s.readCell = (result, t)) : Takes .input s result t := by
  intro before after partners
  simp only [step, getElem?_toArray_append_cons, h, after_eq]

theorem takes_output {result : Except Error Unit} (h : s.writeCell = (result, t)) : Takes .output s result t := by
  intro before after partners
  simp only [step, getElem?_toArray_append_cons, h, after_eq]

theorem Leads.cons {s' : Interpreter} {rest : List Instruction} {result : Except Error Unit}
    (hi : Takes i s (.ok ()) s') (h : Leads rest s' result t) : Leads (i :: rest) s result t := by
  intro before after partners hp
  rw [show before ++ (i :: rest ++ after) = (before ++ [i]) ++ (rest ++ after) by simp] at hp
  obtain ⟨n, hn⟩ := h _ _ _ hp
  refine ⟨n + 1, ?_⟩
  rw [List.cons_append, steps, Execution.steps_succ (hi _ _ _), List.length_cons]
  simpa [steps, Nat.add_assoc, Nat.add_comm 1] using hn

theorem Leads.failed {rest : List Instruction} {e : Error} (hi : Takes i s (.error e) t) :
    Leads (i :: rest) s (.error e) t :=
  fun _ _ _ _ => ⟨1, Execution.steps_one_ended (hi _ _ _)⟩

end Pieces

/-! ## From blocks to flat runs -/

section Loops
variable {body next : Block} {s t : Interpreter} {result : Except Error Unit}

/-- Behind its start, a loop in a program is its body in a program. -/
theorem append_loop (before after : List Instruction) (body next : Block) :
    before ++ ((Block.loop body next).flatten ++ after) = withLoop before body (next.flatten ++ after) := by
  simp [Block.flatten, withLoop]

theorem withLoop_eq_body (before after : List Instruction) (body : Block) :
    withLoop before body after = (before ++ [.startLoop]) ++ (body.flatten ++ .finishLoop :: after) := by
  simp [withLoop]

theorem withLoop_eq_next (before after : List Instruction) (body : Block) :
    withLoop before body after = (before ++ .startLoop :: (body.flatten ++ [.finishLoop])) ++ after := by
  simp [withLoop]

theorem Leads.loop_done (h0 : s.cell = 0) (h : Leads next.flatten s result t) :
    Leads (Block.loop body next).flatten s result t := by
  intro before after partners hp
  rw [append_loop] at hp ⊢
  have hs := (step_loop hp s).1
  rw [if_pos h0] at hs
  rw [withLoop_eq_next] at hp
  obtain ⟨n, hn⟩ := h _ _ _ hp
  rw [← withLoop_eq_next] at hn
  refine ⟨n + 1, ?_⟩
  rw [steps, Execution.steps_succ hs]
  have e : (before ++ Instruction.startLoop :: (body.flatten ++ [.finishLoop])).length =
      before.length + 1 + body.flatten.length + 1 := by simp; omega
  rw [e] at hn
  rw [flatten_loop, withLoop_length, ← steps, hn]
  congr 1
  simp; omega

/-- The run of the body, from the start of the loop on. -/
theorem Leads.of_body (h0 : s.cell ≠ 0) (h : Leads body.flatten s result t)
    {before after : List Instruction} {partners : Array Nat}
    (hp : loopPartners (withLoop before body after) = .ok partners) :
    ∃ n, steps (withLoop before body after) partners n before.length s =
      leaving (before.length + 1 + body.flatten.length) result t := by
  have hs := (step_loop hp s).1
  rw [if_neg h0] at hs
  rw [withLoop_eq_body] at hp
  obtain ⟨n, hn⟩ := h _ _ _ hp
  rw [← withLoop_eq_body, List.length_append, List.length_singleton] at hn
  exact ⟨n + 1, by rw [steps, Execution.steps_succ hs, ← steps, hn]⟩

/-- From the end of a loop a run goes on as from its start. -/
theorem steps_finish {before after : List Instruction} {partners : Array Nat}
    (hp : loopPartners (withLoop before body after) = .ok partners) (n : Nat) (s : Interpreter) :
    steps (withLoop before body after) partners (n + 1) (before.length + 1 + body.flatten.length) s =
      steps (withLoop before body after) partners (n + 1) before.length s := by
  obtain ⟨hstart, hfinish⟩ := step_loop hp s
  rw [steps, Execution.steps_succ hstart, Execution.steps_succ hfinish]

theorem Leads.loop_pass {s' : Interpreter} (h0 : s.cell ≠ 0) (hbody : Leads body.flatten s (.ok ()) s')
    (h : Leads (Block.loop body next).flatten s' result t) :
    Leads (Block.loop body next).flatten s result t := by
  intro before after partners hp
  have hp' := hp
  rw [append_loop] at hp'
  obtain ⟨n, hn⟩ := hbody.of_body h0 hp'
  obtain ⟨m, hm⟩ := h _ _ _ hp
  rw [append_loop] at hm ⊢
  cases m with
  | zero =>
    -- No step leads behind the loop.
    rcases result with e | ⟨⟩
    · cases hm
    · have hpc : before.length = before.length + (Block.loop body next).flatten.length :=
        (Execution.Step.next.inj hm).1
      simp only [flatten_loop, withLoop_length] at hpc
      omega
  | succ m => exact ⟨n + (m + 1), by rw [steps, Execution.steps_add hn, ← steps, steps_finish hp', hm]⟩

theorem Leads.loop_error {e : Error} (h0 : s.cell ≠ 0) (hbody : Leads body.flatten s (.error e) t) :
    Leads (Block.loop body next).flatten s (.error e) t := by
  intro before after partners hp
  rw [append_loop] at hp ⊢
  obtain ⟨n, hn⟩ := hbody.of_body h0 hp
  exact ⟨n, hn⟩

end Loops

theorem leads_of_runs {b : Block} {s t : Interpreter} {result : Except Error Unit} (h : b.Runs s result t) :
    Leads b.flatten s result t := by
  induction h with
  | done s => exact fun _ _ _ _ => ⟨0, rfl⟩
  | increment _ ih => exact .cons (takes_increment _ _) ih
  | moveHead hm _ ih => exact .cons (takes_moveHead hm) ih
  | moveHead_error hm => exact .failed (takes_moveHead hm)
  | input hr _ ih => exact .cons (takes_input hr) ih
  | input_error hr => exact .failed (takes_input hr)
  | output hw _ ih => exact .cons (takes_output hw) ih
  | output_error hw => exact .failed (takes_output hw)
  | loop_done h0 _ ih => exact .loop_done h0 ih
  | loop_pass h0 _ _ ihb ihn => exact .loop_pass h0 ihb ihn
  | loop_error h0 _ ih => exact .loop_error h0 ih

/-! ## From flat runs to blocks -/

/-- A run that ends within `n` steps from the place of a block on: the block fails and ends the run, or it
succeeds and leaves at most `n` steps. -/
def Splits (b : Block) (n : Nat) : Prop :=
  ∀ (before after : List Instruction) {partners : Array Nat} {s t : Interpreter} {result : Except Error Unit},
    loopPartners (before ++ (b.flatten ++ after)) = .ok partners →
    steps (before ++ (b.flatten ++ after)) partners n before.length s = .ended (result, t) →
    (∃ e, result = .error e ∧ b.Runs s (.error e) t) ∨
      ∃ u m, m ≤ n ∧ b.Runs s (.ok ()) u ∧
        steps (before ++ (b.flatten ++ after)) partners m (before.length + b.flatten.length) u =
          .ended (result, t)

section Splitting
variable {before after : List Instruction} {partners : Array Nat} {s t : Interpreter}
  {result : Except Error Unit} {n : Nat}

/-- What follows an instruction that succeeds. -/
theorem Splits.cons {next : Block} {i : Instruction} {s' : Interpreter} (ih : Splits next n)
    (hi : Takes i s (.ok ()) s') (hp : loopPartners (before ++ (i :: next.flatten ++ after)) = .ok partners)
    (h : steps (before ++ (i :: next.flatten ++ after)) partners (n + 1) before.length s = .ended (result, t)) :
    (∃ e, result = .error e ∧ next.Runs s' (.error e) t) ∨
      ∃ u m, m ≤ n + 1 ∧ next.Runs s' (.ok ()) u ∧
        steps (before ++ (i :: next.flatten ++ after)) partners m
          (before.length + (i :: next.flatten).length) u = .ended (result, t) := by
  rw [List.cons_append, steps, Execution.steps_succ (hi _ _ _)] at h
  have e : before ++ i :: (next.flatten ++ after) = (before ++ [i]) ++ (next.flatten ++ after) := by simp
  rw [List.cons_append, e] at hp ⊢
  rw [e] at h
  have hlen : before.length + 1 = (before ++ [i]).length := by simp
  rw [hlen] at h
  rcases ih _ _ hp h with hr | ⟨u, m, hm, hr, hu⟩
  · exact .inl hr
  · refine .inr ⟨u, m, by omega, hr, ?_⟩
    rwa [← hlen, Nat.add_assoc, Nat.add_comm 1] at hu

/-- An instruction that fails ends the run. -/
theorem ended_of_takes {i : Instruction} {rest : List Instruction} {e : Error} {s' : Interpreter}
    (hi : Takes i s (.error e) s')
    (h : steps (before ++ (i :: rest ++ after)) partners (n + 1) before.length s = .ended (result, t)) :
    result = .error e ∧ t = s' := by
  have hend := Execution.steps_one_ended (hi before (rest ++ after) partners)
  cases Execution.ended_unique h hend
  exact ⟨rfl, rfl⟩

theorem Splits.loop {body next : Block} (ih : ∀ k < n + 1, ∀ b, Splits b k)
    (hp : loopPartners (before ++ ((Block.loop body next).flatten ++ after)) = .ok partners)
    (h : steps (before ++ ((Block.loop body next).flatten ++ after)) partners (n + 1) before.length s =
      .ended (result, t)) :
    (∃ e, result = .error e ∧ (Block.loop body next).Runs s (.error e) t) ∨
      ∃ u m, m ≤ n + 1 ∧ (Block.loop body next).Runs s (.ok ()) u ∧
        steps (before ++ ((Block.loop body next).flatten ++ after)) partners m
          (before.length + (Block.loop body next).flatten.length) u = .ended (result, t) := by
  have hp' := hp
  rw [append_loop] at hp' h
  rw [steps, Execution.steps_succ (step_loop hp' s).1, ← steps] at h
  by_cases h0 : s.cell = 0
  · rw [if_pos h0] at h
    have hlen : before.length + 1 + body.flatten.length + 1 =
        (before ++ Instruction.startLoop :: (body.flatten ++ [.finishLoop])).length := by simp; omega
    have e := withLoop_eq_next before (next.flatten ++ after) body
    rw [e, hlen] at h
    rcases ih n (Nat.lt_succ_self n) next _ _ (e ▸ hp') h with ⟨e, rfl, hr⟩ | ⟨u, m, hm, hr, hu⟩
    · exact .inl ⟨e, rfl, .loop_done h0 hr⟩
    · refine .inr ⟨u, m, by omega, .loop_done h0 hr, ?_⟩
      rw [← e, ← hlen] at hu
      rw [append_loop, ← hu, flatten_loop, withLoop_length]
      congr 1
      simp; omega
  · rw [if_neg h0] at h
    have hlen : before.length + 1 = (before ++ [Instruction.startLoop]).length := by simp
    have e := withLoop_eq_body before (next.flatten ++ after) body
    rw [e, hlen] at h
    rcases ih n (Nat.lt_succ_self n) body _ _ (e ▸ hp') h with ⟨e, rfl, hr⟩ | ⟨u, m, hm, hr, hu⟩
    · exact .inl ⟨e, rfl, .loop_error h0 hr⟩
    · -- Behind the pass stands the end of the loop, from where the run goes on as from its start.
      rw [← e, ← hlen] at hu
      cases m with
      | zero => cases hu
      | succ m =>
        rw [steps_finish hp', ← append_loop] at hu
        rcases ih (m + 1) (by omega) (.loop body next) _ _ hp hu with ⟨e, rfl, hr'⟩ | ⟨u', m', hm', hr', hu'⟩
        · exact .inl ⟨e, rfl, .loop_pass h0 hr hr'⟩
        · exact .inr ⟨u', m', by omega, .loop_pass h0 hr hr', hu'⟩

end Splitting

theorem splits (b : Block) (n : Nat) : Splits b n := by
  -- On the number of steps and not on the block, since a pass is followed by the whole loop again.
  induction n using Nat.strong_induction_on generalizing b with
  | _ n ih =>
    intro before after partners s t result hp h
    cases n with
    | zero => cases h
    | succ n =>
      have hnext := ih n (Nat.lt_succ_self n)
      cases b with
      | done => exact .inr ⟨s, n + 1, Nat.le_refl _, .done s, h⟩
      | increment amount next =>
        rcases Splits.cons (hnext next) (takes_increment amount s) hp h with ⟨e, rfl, hr⟩ | ⟨u, m, hm, hr, hu⟩
        · exact .inl ⟨e, rfl, .increment hr⟩
        · exact .inr ⟨u, m, hm, .increment hr, hu⟩
      | moveHead offset next =>
        rcases hmove : s.moveHead offset with ⟨e | ⟨⟩, s'⟩
        · obtain ⟨rfl, rfl⟩ := ended_of_takes (takes_moveHead hmove) h
          exact .inl ⟨e, rfl, .moveHead_error hmove⟩
        · rcases Splits.cons (hnext next) (takes_moveHead hmove) hp h with ⟨e, rfl, hr⟩ | ⟨u, m, hm, hr, hu⟩
          · exact .inl ⟨e, rfl, .moveHead hmove hr⟩
          · exact .inr ⟨u, m, hm, .moveHead hmove hr, hu⟩
      | input next =>
        rcases hread : s.readCell with ⟨e | ⟨⟩, s'⟩
        · obtain ⟨rfl, rfl⟩ := ended_of_takes (takes_input hread) h
          exact .inl ⟨e, rfl, .input_error hread⟩
        · rcases Splits.cons (hnext next) (takes_input hread) hp h with ⟨e, rfl, hr⟩ | ⟨u, m, hm, hr, hu⟩
          · exact .inl ⟨e, rfl, .input hread hr⟩
          · exact .inr ⟨u, m, hm, .input hread hr, hu⟩
      | output next =>
        rcases hwrite : s.writeCell with ⟨e | ⟨⟩, s'⟩
        · obtain ⟨rfl, rfl⟩ := ended_of_takes (takes_output hwrite) h
          exact .inl ⟨e, rfl, .output_error hwrite⟩
        · rcases Splits.cons (hnext next) (takes_output hwrite) hp h with ⟨e, rfl, hr⟩ | ⟨u, m, hm, hr, hu⟩
          · exact .inl ⟨e, rfl, .output hwrite hr⟩
          · exact .inr ⟨u, m, hm, .output hwrite hr, hu⟩
      | loop body next => exact Splits.loop ih hp h

/-! ## The two agree -/

/-- Behind a whole program only the flush is left. -/
theorem steps_behind (program : List Instruction) (partners : Array Nat) (s : Interpreter) (n : Nat) :
    steps program partners (n + 1) program.length s = .ended s.flush := by
  have hend : step program.toArray partners program.length s = .ended s.flush := by
    simp [step]
  rw [steps, Nat.add_comm, Execution.steps_add_ended (Execution.steps_one_ended hend)]

/-- At the end of a program a block and the flush behind it are all that is left. -/
theorem ended_iff_completes {before : List Instruction} {b : Block} {partners : Array Nat}
    (hp : loopPartners (before ++ b.flatten) = .ok partners) (s : Interpreter) (result : Except Error Unit)
    (t : Interpreter) :
    (∃ n, steps (before ++ b.flatten) partners n before.length s = .ended (result, t)) ↔ b.Completes s result t := by
  have e : before ++ (b.flatten ++ []) = before ++ b.flatten := by simp
  constructor
  · rintro ⟨n, hn⟩
    rcases splits b n before [] (e.symm ▸ hp) (e.symm ▸ hn) with ⟨e, rfl, hr⟩ | ⟨u, m, -, hr, hu⟩
    · exact .failed hr
    · rw [e, ← List.length_append] at hu
      cases m with
      | zero => cases hu
      | succ m =>
        rw [steps_behind] at hu
        exact .flushed hr (Execution.Step.ended.inj hu)
  · intro h
    cases h with
    | @flushed u r _ hr hf =>
      obtain ⟨n, hn⟩ := leads_of_runs hr before [] partners (e.symm ▸ hp)
      rw [e, ← List.length_append] at hn
      refine ⟨n + 1, ?_⟩
      rw [steps, Execution.steps_add hn, ← steps, ← hf]
      exact steps_behind (before ++ b.flatten) partners u 0
    | failed hr =>
      obtain ⟨n, hn⟩ := leads_of_runs hr before [] partners (e.symm ▸ hp)
      rw [e] at hn
      exact ⟨n, hn⟩

end Interpreter

theorem ends_flatten_iff (b : Block) (s : Interpreter) (result : Except Error Unit) (t : Interpreter) :
    Ends b.flatten s result t ↔ b.Completes s result t := by
  obtain ⟨partners, hp⟩ := loopPartners_flatten b
  rw [Interpreter.ends_iff hp]
  have e : [] ++ b.flatten = b.flatten := List.nil_append _
  rw [← e] at hp ⊢
  exact Interpreter.ended_iff_completes hp s result t

theorem runsForever_flatten_iff (b : Block) (s : Interpreter) : RunsForever b.flatten s ↔ b.Diverges s := by
  simp only [Block.Diverges, ← ends_flatten_iff, Interpreter.runsForever_iff_not_ends]

end Brainfuck
