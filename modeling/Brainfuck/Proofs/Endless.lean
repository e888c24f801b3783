import Brainfuck.Proofs.Blocks
import Mathlib.Logic.ExistsUnique
import Mathlib.Logic.Function.Iterate
/-!
# A block that does not end goes on forever

`Runs.unique`: a block ends in one way. `Block.diverges_iff_endless`: a block comes to no end just when some loop
of it passes without end. `run_implements_blocks`: so the run of a program does, end or no end, what its one
block does.
-/

namespace Brainfuck

open Interpreter (Ends RunsForever)

namespace Block

variable {b body next : Block} {s s' t t' : Interpreter} {result result' : Except Error Unit}

/-! ## One way to end -/

theorem Runs.unique (h : b.Runs s result t) (h' : b.Runs s result' t') : result = result' ∧ t = t' := by
  -- In each case the second run began with the same rule, since the rules exclude each other.
  induction h generalizing result' t' with
  | done => cases h'; exact ⟨rfl, rfl⟩
  | increment _ ih => cases h' with | increment h' => exact ih h'
  | moveHead hm _ ih =>
    cases h' with
    | moveHead hm' h' => cases hm.symm.trans hm'; exact ih h'
    | moveHead_error hm' => cases hm.symm.trans hm'
  | moveHead_error hm =>
    cases h' with
    | moveHead hm' => cases hm.symm.trans hm'
    | moveHead_error hm' => cases hm.symm.trans hm'; exact ⟨rfl, rfl⟩
  | input hr _ ih =>
    cases h' with
    | input hr' h' => cases hr.symm.trans hr'; exact ih h'
    | input_error hr' => cases hr.symm.trans hr'
  | input_error hr =>
    cases h' with
    | input hr' => cases hr.symm.trans hr'
    | input_error hr' => cases hr.symm.trans hr'; exact ⟨rfl, rfl⟩
  | output hw _ ih =>
    cases h' with
    | output hw' h' => cases hw.symm.trans hw'; exact ih h'
    | output_error hw' => cases hw.symm.trans hw'
  | output_error hw =>
    cases h' with
    | output hw' => cases hw.symm.trans hw'
    | output_error hw' => cases hw.symm.trans hw'; exact ⟨rfl, rfl⟩
  | loop_done h0 _ ih =>
    cases h' with
    | loop_done _ h' => exact ih h'
    | loop_pass hn | loop_error hn => exact absurd h0 hn
  | loop_pass hn _ _ ihb ihn =>
    cases h' with
    | loop_done h0 => exact absurd h0 hn
    | loop_pass _ hb' h' => obtain ⟨-, rfl⟩ := ihb hb'; exact ihn h'
    | loop_error _ hb' => cases (ihb hb').1
  | loop_error hn _ ihb =>
    cases h' with
    | loop_done h0 => exact absurd h0 hn
    | loop_pass _ hb' => cases (ihb hb').1
    | loop_error _ hb' => exact ihb hb'

/-! ## Passes of a loop -/

/-- Some passes before, the loop ends as it does some passes later. -/
theorem Runs.of_passes (hp : Passes body s s') (h : Runs (loop body next) s' result t) :
    Runs (loop body next) s result t := by
  induction hp with
  | none => exact h
  | more hn hb _ ih => exact .loop_pass hn hb (ih h)

theorem Runs.after_passes (hp : Passes body s s') (h : Runs (loop body next) s result t) :
    Runs (loop body next) s' result t := by
  induction hp with
  | none => exact h
  | more hn hb _ ih =>
    cases h with
    | loop_done h0 => exact absurd h0 hn
    | loop_pass _ hb' h =>
      obtain ⟨-, rfl⟩ := hb.unique hb'
      exact ih h
    | loop_error _ hb' => cases (hb.unique hb').1

theorem Passes.snoc (hp : Passes body s s') (hn : s'.cell ≠ 0) (hb : Runs body s' (.ok ()) t) :
    Passes body s t := by
  induction hp with
  | none => exact .more hn hb (.none t)
  | more hn' hb' _ ih => exact .more hn' hb' (ih hn hb)

/-- Where every pass is followed by another one, passes follow each other without end. -/
theorem exists_passes
    (h : ∀ s', Passes body s s' → s'.cell ≠ 0 ∧ ∃ s'', Runs body s' (.ok ()) s'') :
    ∃ states : Nat → Interpreter, states 0 = s ∧
      ∀ n, (states n).cell ≠ 0 ∧ Runs body (states n) (.ok ()) (states (n + 1)) := by
  have hnext (x : { s' // Passes body s s' }) : ∃ y : { s' // Passes body s s' }, Runs body x.1 (.ok ()) y.1 := by
    obtain ⟨hn, s'', hb⟩ := h x.1 x.2
    exact ⟨⟨s'', x.2.snoc hn hb⟩, hb⟩
  choose follow hfollow using hnext
  let state (n : Nat) := follow^[n] ⟨s, .none s⟩
  have hsucc (n : Nat) : state (n + 1) = follow (state n) := Function.iterate_succ_apply' follow n _
  refine ⟨fun n => (state n).1, rfl, fun n => ⟨(h _ (state n).2).1, ?_⟩⟩
  simp only [hsucc]
  exact hfollow (state n)

theorem not_runs_of_passes {states : Nat → Interpreter}
    (h : ∀ n, (states n).cell ≠ 0 ∧ Runs body (states n) (.ok ()) (states (n + 1))) :
    ¬ Runs (loop body next) (states 0) result t := by
  intro hr
  generalize hl : Block.loop body next = l at hr
  generalize hs : states 0 = s at hr
  -- On the run of the loop; a pass of it leads to the passes from the second on.
  induction hr generalizing states with
  | loop_done h0 => subst hs; exact absurd h0 (h 0).1
  | loop_pass _ hb _ _ ih =>
    cases hl
    subst hs
    exact ih (fun n => h (n + 1)) rfl ((h 0).2.unique hb).2
  | loop_error _ hb =>
    cases hl
    subst hs
    cases ((h 0).2.unique hb).1
  | done | increment | moveHead | moveHead_error | input | input_error | output | output_error => cases hl

/-! ## No end -/

theorem endless_of_not_runs (b : Block) (s : Interpreter) (h : ¬ ∃ result t, b.Runs s result t) :
    b.Endless s := by
  induction b generalizing s with
  | done => exact h ⟨_, _, .done s⟩
  | increment amount next ih => exact ih _ fun ⟨result, t, hr⟩ => h ⟨result, t, .increment hr⟩
  | moveHead offset next ih =>
    rcases hm : s.moveHead offset with ⟨e | ⟨⟩, s'⟩
    · exact absurd ⟨_, _, .moveHead_error hm⟩ h
    · exact ⟨s', hm, ih s' fun ⟨result, t, hr⟩ => h ⟨result, t, .moveHead hm hr⟩⟩
  | input next ih =>
    rcases hread : s.readCell with ⟨e | ⟨⟩, s'⟩
    · exact absurd ⟨_, _, .input_error hread⟩ h
    · exact ⟨s', hread, ih s' fun ⟨result, t, hr⟩ => h ⟨result, t, .input hread hr⟩⟩
  | output next ih =>
    rcases hwrite : s.writeCell with ⟨e | ⟨⟩, s'⟩
    · exact absurd ⟨_, _, .output_error hwrite⟩ h
    · exact ⟨s', hwrite, ih s' fun ⟨result, t, hr⟩ => h ⟨result, t, .output hwrite hr⟩⟩
  | loop body next ihb ihn =>
    by_cases hstuck : ∃ s', Passes body s s' ∧ (s'.cell ≠ 0 ∧ body.Endless s' ∨ s'.cell = 0 ∧ next.Endless s')
    · exact .inr hstuck
    · -- Neither a pass nor what follows is endless, so each pass ends, and the loop goes on behind it.
      refine .inl (exists_passes fun s' hp => ?_)
      have hloop : ¬ ∃ result t, Runs (loop body next) s' result t :=
        fun ⟨result, t, hr⟩ => h ⟨result, t, hr.of_passes hp⟩
      have hn : s'.cell ≠ 0 := fun h0 =>
        hstuck ⟨s', hp, .inr ⟨h0, ihn s' fun ⟨result, t, hr⟩ => hloop ⟨result, t, .loop_done h0 hr⟩⟩⟩
      refine ⟨hn, ?_⟩
      by_cases hb : ∃ result t, body.Runs s' result t
      · obtain ⟨e | ⟨⟩, t, hb⟩ := hb
        · exact absurd ⟨_, _, .loop_error hn hb⟩ hloop
        · exact ⟨t, hb⟩
      · exact absurd ⟨s', hp, .inl ⟨hn, ihb s' hb⟩⟩ hstuck

theorem not_runs_of_endless (b : Block) (s : Interpreter) (h : b.Endless s) (result : Except Error Unit)
    (t : Interpreter) : ¬ b.Runs s result t := by
  intro hr
  induction b generalizing s result t with
  | done => exact h
  | increment amount next ih => cases hr with | increment hr => exact ih _ h _ _ hr
  | moveHead offset next ih =>
    obtain ⟨s', hm, h⟩ := h
    cases hr with
    | moveHead hm' hr => cases hm.symm.trans hm'; exact ih _ h _ _ hr
    | moveHead_error hm' => cases hm.symm.trans hm'
  | input next ih =>
    obtain ⟨s', hread, h⟩ := h
    cases hr with
    | input hread' hr => cases hread.symm.trans hread'; exact ih _ h _ _ hr
    | input_error hread' => cases hread.symm.trans hread'
  | output next ih =>
    obtain ⟨s', hwrite, h⟩ := h
    cases hr with
    | output hwrite' hr => cases hwrite.symm.trans hwrite'; exact ih _ h _ _ hr
    | output_error hwrite' => cases hwrite.symm.trans hwrite'
  | loop body next ihb ihn =>
    rcases h with ⟨states, rfl, h⟩ | ⟨s', hp, h⟩
    · exact not_runs_of_passes h hr
    · have hlater := hr.after_passes hp
      rcases h with ⟨hn, h⟩ | ⟨h0, h⟩
      · cases hlater with
        | loop_done h0 => exact absurd h0 hn
        | loop_pass _ hb | loop_error _ hb => exact ihb _ h _ _ hb
      · cases hlater with
        | loop_done _ hr => exact ihn _ h _ _ hr
        | loop_pass hn | loop_error hn => exact absurd h0 hn

theorem completes_iff_runs (b : Block) (s : Interpreter) :
    (∃ result t, b.Completes s result t) ↔ ∃ result t, b.Runs s result t := by
  constructor
  · rintro ⟨result, t, hr | hr⟩
    · exact ⟨_, _, hr⟩
    · exact ⟨_, _, hr⟩
  · rintro ⟨e | ⟨⟩, t, hr⟩
    · exact ⟨_, _, .failed hr⟩
    · exact ⟨_, _, .flushed hr rfl⟩

theorem diverges_iff_endless (b : Block) (s : Interpreter) : b.Diverges s ↔ b.Endless s := by
  rw [Diverges, completes_iff_runs]
  constructor
  · exact endless_of_not_runs b s
  · rintro h ⟨result, t, hr⟩
    exact not_runs_of_endless b s h result t hr

end Block

/-! ## Programs are blocks -/

theorem run_implements_blocks :
    (∀ program : List Instruction, Balanced program ↔ ∃! b : Block, b.flatten = program) ∧
    ∀ (b : Block) (s : Interpreter),
      (∀ result t, Ends b.flatten s result t ↔ b.Completes s result t) ∧
      (RunsForever b.flatten s ↔ b.Endless s) := by
  constructor
  · intro program
    rw [balanced_iff_flatten]
    constructor
    · rintro ⟨b, rfl⟩
      exact ⟨b, rfl, fun c hc => flatten_injective hc⟩
    · rintro ⟨b, rfl, -⟩
      exact ⟨b, rfl⟩
  · intro b s
    exact ⟨ends_flatten_iff b s, (runsForever_flatten_iff b s).trans (b.diverges_iff_endless s)⟩

end Brainfuck
