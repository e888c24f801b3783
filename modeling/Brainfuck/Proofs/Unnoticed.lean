import Brainfuck.Proofs.Runs
/-!
# Changes that a run does not notice

`Unnoticed`: a change of the state that no instruction looks at. `Unnoticed.ends` and `Unnoticed.runsForever`: a run
from the changed state does what it does from the state itself, and leaves the same change behind. Where all results
carry over, `Unnoticed.ends_iff` and `Unnoticed.runsForever_iff` tell the runs from one state by those from the other.
-/

namespace Brainfuck

/-! ## Steps from changed states -/

namespace Execution

/-- Where each step that goes on does so from the image of its state, all steps do. -/
theorem steps_image {S T A B : Type} {f : Nat → S → Step S A} {g : Nat → T → Step T B} {image : S → T}
    {Safe : S → Prop}
    (hstep : ∀ {pc pc' s s'}, Safe s → f pc s = .next pc' s' → Safe s' ∧ g pc (image s) = .next pc' (image s'))
    {n pc pc' : Nat} {s s' : S} (hs : Safe s) (h : steps f n pc s = .next pc' s') :
    Safe s' ∧ steps g n pc (image s) = .next pc' (image s') := by
  induction n generalizing pc s with
  | zero =>
    cases h
    exact ⟨hs, rfl⟩
  | succ n ih =>
    cases e : f pc s with
    | ended a =>
      rw [steps, e] at h
      cases h
    | next pc₁ s₁ =>
      obtain ⟨hs₁, hg⟩ := hstep hs e
      rw [steps_succ e] at h
      rw [steps_succ hg]
      exact ih hs₁ h

end Execution

namespace Interpreter

/-- From safe states every instruction does the same before and after the change, with the change left behind, as long
as its result is one of those that carry over. -/
structure Unnoticed (change : Interpreter → Interpreter) (Safe : Interpreter → Prop)
    (Carries : Except Error Unit → Prop) : Prop where
  carries_ok : Carries (.ok ())
  safe : ∀ {program : List Instruction} {partners pc pc' s t}, Safe s →
    step program.toArray partners pc s = .next pc' t → Safe t
  cell : ∀ {s}, Safe s → (change s).cell = s.cell
  increment : ∀ {s amount}, Safe s → (change s).increment amount = change (s.increment amount)
  moveHead : ∀ {s offset result t}, Safe s → Carries result → s.moveHead offset = (result, t) →
    (change s).moveHead offset = (result, change t)
  readCell : ∀ {s result t}, Safe s → Carries result → s.readCell = (result, t) →
    (change s).readCell = (result, change t)
  writeCell : ∀ {s result t}, Safe s → Carries result → s.writeCell = (result, t) →
    (change s).writeCell = (result, change t)
  flush : ∀ {s result t}, Safe s → Carries result → s.flush = (result, t) → (change s).flush = (result, change t)

section Runs
variable {change : Interpreter → Interpreter} {Safe : Interpreter → Prop} {Carries : Except Error Unit → Prop}
  {program : List Instruction} {partners : Array Nat} {n pc pc' : Nat} {s t : Interpreter}
  {result : Except Error Unit} (h : Unnoticed change Safe Carries) (hs : Safe s)
include h hs

theorem Unnoticed.step_next (hstep : step program.toArray partners pc s = .next pc' t) :
    Safe t ∧ step program.toArray partners pc (change s) = .next pc' (change t) := by
  refine ⟨h.safe hs hstep, ?_⟩
  unfold step at hstep ⊢
  cases hi : program.toArray[pc]? with
  | none =>
    rw [hi] at hstep
    cases hstep
  | some i =>
    rw [hi] at hstep
    cases i with
    | increment amount =>
      cases hstep
      dsimp only
      rw [h.increment hs]
    | moveHead offset =>
      obtain ⟨rfl, hmove⟩ := after_eq_next hstep
      dsimp only
      rw [h.moveHead hs h.carries_ok hmove]
      rfl
    | input =>
      obtain ⟨rfl, hread⟩ := after_eq_next hstep
      dsimp only
      rw [h.readCell hs h.carries_ok hread]
      rfl
    | output =>
      obtain ⟨rfl, hwrite⟩ := after_eq_next hstep
      dsimp only
      rw [h.writeCell hs h.carries_ok hwrite]
      rfl
    | startLoop | finishLoop =>
      cases hstep
      dsimp only
      rw [h.cell hs]

theorem Unnoticed.step_ended (hresult : Carries result)
    (hstep : step program.toArray partners pc s = .ended (result, t)) :
    step program.toArray partners pc (change s) = .ended (result, change t) := by
  unfold step at hstep ⊢
  cases hi : program.toArray[pc]? with
  | none =>
    rw [hi] at hstep
    dsimp only at hstep ⊢
    rw [h.flush hs hresult (Execution.Step.ended.inj hstep)]
  | some i =>
    rw [hi] at hstep
    cases i with
    | moveHead offset =>
      obtain ⟨e, rfl, hmove⟩ := after_eq_ended hstep
      dsimp only
      rw [h.moveHead hs hresult hmove]
      rfl
    | input =>
      obtain ⟨e, rfl, hread⟩ := after_eq_ended hstep
      dsimp only
      rw [h.readCell hs hresult hread]
      rfl
    | output =>
      obtain ⟨e, rfl, hwrite⟩ := after_eq_ended hstep
      dsimp only
      rw [h.writeCell hs hresult hwrite]
      rfl
    | increment | startLoop | finishLoop => cases hstep

theorem Unnoticed.steps (hn : Interpreter.steps program partners n pc s = .next pc' t) :
    Safe t ∧ Interpreter.steps program partners n pc (change s) = .next pc' (change t) :=
  Execution.steps_image (fun hs hstep => h.step_next hs hstep) hs hn

theorem Unnoticed.ends (hresult : Carries result) (hends : Ends program s result t) :
    Ends program (change s) result (change t) := by
  cases hp : loopPartners program with
  | error e =>
    obtain ⟨fuel, hrun⟩ := hends
    simp only [run, hp] at hrun
    cases hrun
    exact ⟨fuel, by simp only [run, hp]⟩
  | ok partners =>
    obtain ⟨n, hn⟩ := (ends_iff hp).1 hends
    obtain ⟨k, pc, u, hk, hlast⟩ := Execution.last_step hn
    obtain ⟨hu, hk'⟩ := h.steps hs hk
    refine (ends_iff hp).2 ⟨k + 1, ?_⟩
    rw [Interpreter.steps] at hk' ⊢
    rw [Execution.steps_add hk']
    exact Execution.steps_one_ended (h.step_ended hu hresult hlast)

theorem Unnoticed.runsForever (hforever : RunsForever program s) : RunsForever program (change s) := by
  cases hp : loopPartners program with
  | error e =>
    have hrun := hforever 0
    simp only [run, hp] at hrun
    cases hrun
  | ok partners =>
    refine (runsForever_iff hp).2 fun n => ?_
    obtain ⟨pc, t, hn⟩ := (runsForever_iff hp).1 hforever n
    exact ⟨pc, change t, (h.steps hs hn).2⟩

/-- Where every result carries over, runs from the changed state are changed runs from the state. -/
theorem Unnoticed.ends_iff (hall : ∀ result, Carries result) :
    Ends program (change s) result t ↔ ∃ u, Ends program s result u ∧ t = change u := by
  constructor
  · intro hends
    rcases ends_or_runsForever program s with ⟨result', u, hends'⟩ | hforever
    · obtain ⟨rfl, rfl⟩ := hends.unique (h.ends hs (hall result') hends')
      exact ⟨u, hends', rfl⟩
    · exact absurd (h.runsForever hs hforever) hends.not_runsForever
  · rintro ⟨u, hends, rfl⟩
    exact h.ends hs (hall result) hends

theorem Unnoticed.runsForever_iff (hall : ∀ result, Carries result) :
    RunsForever program (change s) ↔ RunsForever program s := by
  refine ⟨fun hforever => ?_, h.runsForever hs⟩
  rw [runsForever_iff_not_ends]
  rintro ⟨result, t, hends⟩
  exact (h.ends hs (hall result) hends).not_runsForever hforever

end Runs

end Interpreter

end Brainfuck
