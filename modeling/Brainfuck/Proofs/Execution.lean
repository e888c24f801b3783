import Brainfuck.Execution
import Mathlib.Order.Monotone.Basic
/-!
# A machine that keeps up with another

`Simulation.follows`: if every step of one machine is matched by steps of a second, then so is every run.
`Simulation.endless` and `Simulation.ends`: the second machine ends where the first one does, and never
before.

A step may be matched by no step at all while a rank goes down, so no endless run is matched by standing
still.
-/

namespace Brainfuck.Execution

section Steps
variable {S A : Type} {step : Nat → S → Step S A}

/-! ## Runs in two parts -/

theorem steps_succ {pc pc' : Nat} {s s' : S} (h : step pc s = .next pc' s') (n : Nat) :
    steps step (n + 1) pc s = steps step n pc' s' := by
  simp only [steps, h]

theorem steps_one {pc pc' : Nat} {s s' : S} (h : step pc s = .next pc' s') :
    steps step 1 pc s = .next pc' s' := steps_succ h 0

theorem steps_one_ended {pc : Nat} {s : S} {a : A} (h : step pc s = .ended a) :
    steps step 1 pc s = .ended a := by
  simp only [steps, h]

theorem steps_add {n pc pc' : Nat} {s s' : S} (h : steps step n pc s = .next pc' s') (k : Nat) :
    steps step (n + k) pc s = steps step k pc' s' := by
  induction n generalizing pc s with
  | zero => cases h; rw [Nat.zero_add]
  | succ n ih =>
    rw [Nat.succ_add]
    simp only [steps] at h ⊢
    split at h
    · exact ih h
    · cases h

theorem steps_add_ended {n pc : Nat} {s : S} {a : A} (h : steps step n pc s = .ended a) (k : Nat) :
    steps step (n + k) pc s = .ended a := by
  induction n generalizing pc s with
  | zero => cases h
  | succ n ih =>
    rw [Nat.succ_add]
    simp only [steps] at h ⊢
    split at h
    · exact ih h
    · exact h

theorem ended_unique {n k pc : Nat} {s : S} {a b : A} (hn : steps step n pc s = .ended a)
    (hk : steps step k pc s = .ended b) : a = b := by
  have := steps_add_ended hn k
  rw [Nat.add_comm, steps_add_ended hk n] at this
  cases this
  rfl

/-- A run that goes on after so many steps went on after fewer. -/
theorem next_of_le {n k pc pc' : Nat} {s s' : S} (h : steps step n pc s = .next pc' s') (hk : k ≤ n) :
    ∃ pc'' s'', steps step k pc s = .next pc'' s'' := by
  cases e : steps step k pc s with
  | next pc'' s'' => exact ⟨pc'', s'', rfl⟩
  | ended a =>
    have := steps_add_ended e (n - k)
    rw [Nat.add_sub_cancel' hk, h] at this
    cases this

/-- The last of some steps that go on. -/
theorem steps_last {n pc pc' : Nat} {s s' : S} (h : steps step (n + 1) pc s = .next pc' s') :
    ∃ pc'' s'', steps step n pc s = .next pc'' s'' ∧ step pc'' s'' = .next pc' s' := by
  obtain ⟨pc'', s'', hn⟩ := next_of_le h (Nat.le_succ n)
  refine ⟨pc'', s'', hn, ?_⟩
  rw [steps_add hn 1, steps] at h
  split at h
  next hstep => cases h; exact hstep
  · cases h

/-- Before a run ended it came to the step that ended it. -/
theorem last_step {n pc : Nat} {s : S} {a : A} (h : steps step n pc s = .ended a) :
    ∃ k pc' s', steps step k pc s = .next pc' s' ∧ step pc' s' = .ended a := by
  induction n generalizing pc s with
  | zero => cases h
  | succ n ih =>
    cases e : step pc s with
    | next pc' s' =>
      rw [steps_succ e] at h
      obtain ⟨k, pc'', s'', hk, hs⟩ := ih h
      exact ⟨k + 1, pc'', s'', by rw [steps_succ e, hk], hs⟩
    | ended b =>
      rw [show n + 1 = 1 + n by omega, steps_add_ended (steps_one_ended e)] at h
      cases h
      exact ⟨0, pc, s, rfl, e⟩

/-! ## Lines in a row -/

/-- Lines that only lead to the next one are carried out in their order. -/
theorem steps_in_a_row {Line : Type} (execute? : S → Line → Option S) {lines : List Line}
    (hstep : ∀ (pc : Nat) (s s' : S) (line : Line), lines[pc]? = some line → execute? s line = some s' →
      step pc s = .next (pc + 1) s')
    {before row after : List Line} (hlines : lines = before ++ (row ++ after)) {s s' : S}
    (h : row.foldlM execute? s = some s') :
    steps step row.length before.length s = .next (before.length + row.length) s' := by
  induction row generalizing before s with
  | nil => cases h; rfl
  | cons line row ih =>
    rw [List.foldlM_cons] at h
    obtain ⟨s₁, h₁, hrow⟩ := Option.bind_eq_some_iff.1 h
    have hline : lines[before.length]? = some line := by
      rw [hlines, List.getElem?_append_right (Nat.le_refl _), Nat.sub_self]
      rfl
    have hsplit : lines = (before ++ [line]) ++ (row ++ after) := by simp [hlines]
    have hrest := ih hsplit hrow
    rw [List.length_cons, steps_succ (hstep _ _ _ _ hline h₁)]
    simpa [Nat.add_assoc, Nat.add_comm 1] using hrest

end Steps

/-! ## Simulations -/

section Simulations
variable {S T A B : Type} {f : Nat → S → Step S A} {g : Nat → T → Step T B}
  {R : Nat → Nat → S → Nat → T → Prop} {P : T → Prop}

/-- Steps of `g` from `t` at line `l` on match a step of `f` to `s'` at line `k'`, taken at the given rank: they
lead to a related state, and `P` holds of the states passed on the way. If there are none, the rank falls. -/
def Matches (g : Nat → T → Step T B) (R : Nat → Nat → S → Nat → T → Prop) (P : T → Prop) (rank k' : Nat) (s' : S)
    (l : Nat) (t : T) : Prop :=
  ∃ j l' t', steps g j l t = .next l' t' ∧ (∀ n < j, ∀ l'' t'', steps g n l t = .next l'' t'' → P t'') ∧
    ∃ rank', R rank' k' s' l' t' ∧ (0 < j ∨ rank' < rank)

/-- `R rank k s l t` relates the states `s` at line `k` and `t` at line `l`. Every step of `f` from related
states is matched. -/
structure Simulation (f : Nat → S → Step S A) (g : Nat → T → Step T B)
    (R : Nat → Nat → S → Nat → T → Prop) (P : T → Prop) : Prop where
  next : ∀ {rank k k' l : Nat} {s s' : S} {t : T}, R rank k s l t → f k s = .next k' s' →
    Matches g R P rank k' s' l t

/-- One step that is matched by one step. -/
theorem Matches.of_step {rank rank' k' l l' : Nat} {s' : S} {t t' : T} (hP : P t) (hg : g l t = .next l' t')
    (hr : R rank' k' s' l' t') : Matches g R P rank k' s' l t := by
  refine ⟨1, l', t', steps_one hg, fun n hn l'' t'' hn' => ?_, rank', hr, .inl Nat.one_pos⟩
  obtain rfl : n = 0 := by omega
  cases hn'
  exact hP

/-- Where nothing is asked of the states on the way, it is enough to take some step. -/
theorem Matches.of_steps {rank rank' k' j l l' : Nat} {s' : S} {t t' : T} (hj : 0 < j)
    (hg : steps g j l t = .next l' t') (hr : R rank' k' s' l' t') :
    Matches g R (fun _ => True) rank k' s' l t :=
  ⟨j, l', t', hg, fun _ _ _ _ _ => trivial, rank', hr, .inl hj⟩

/-- A step may be matched by standing still while the rank falls. -/
theorem Matches.of_still {rank rank' k' l : Nat} {s' : S} {t : T} (hrank : rank' < rank) (hr : R rank' k' s' l t) :
    Matches g R P rank k' s' l t :=
  ⟨0, l, t, rfl, fun n hn => absurd hn (Nat.not_lt_zero n), rank', hr, .inr hrank⟩

/-- After `n` steps of `f` and `m` steps of `g` the machines are in states related at the rank, and `P` held
of all states of `g` so far. -/
def Abreast (f : Nat → S → Step S A) (g : Nat → T → Step T B) (R : Nat → Nat → S → Nat → T → Prop)
    (P : T → Prop) (k : Nat) (s : S) (l : Nat) (t : T) (n m rank : Nat) : Prop :=
  ∀ k' s', steps f n k s = .next k' s' → ∃ l' t', steps g m l t = .next l' t' ∧
    (∀ i < m, ∀ l'' t'', steps g i l t = .next l'' t'' → P t'') ∧ R rank k' s' l' t'

theorem Simulation.abreast_succ (h : Simulation f g R P) {k l : Nat} {s : S} {t : T} {n m rank : Nat}
    (hn : Abreast f g R P k s l t n m rank) :
    ∃ m' rank', Abreast f g R P k s l t (n + 1) m' rank' ∧ (m < m' ∨ m = m' ∧ rank' < rank) := by
  -- Where `f` has ended there is nothing left to relate.
  by_cases hends : ∃ a, steps f (n + 1) k s = .ended a
  · obtain ⟨a, ha⟩ := hends
    refine ⟨m + 1, 0, fun k' s' h' => ?_, .inl (Nat.lt_succ_self m)⟩
    rw [ha] at h'
    cases h'
  cases e : steps f n k s with
  | ended a => exact absurd ⟨a, steps_add_ended e 1⟩ hends
  | next k₁ s₁ =>
    obtain ⟨l₁, t₁, hg, hp, hr⟩ := hn k₁ s₁ e
    cases e₁ : f k₁ s₁ with
    | ended a => exact absurd ⟨a, (steps_add e 1).trans (steps_one_ended e₁)⟩ hends
    | next k₂ s₂ =>
      obtain ⟨j, l₂, t₂, hg', hp', rank', hr', hj⟩ := h.next hr e₁
      refine ⟨m + j, rank', fun k' s' h' => ?_, by omega⟩
      rw [steps_add e 1, steps_one e₁] at h'
      cases h'
      refine ⟨l₂, t₂, by rw [steps_add hg j, hg'], fun i hi l'' t'' hi' => ?_, hr'⟩
      by_cases him : i < m
      · exact hp i him l'' t'' hi'
      · obtain ⟨i', rfl⟩ := Nat.exists_eq_add_of_le (Nat.le_of_not_lt him)
        rw [steps_add hg i'] at hi'
        exact hp' i' (by omega) l'' t'' hi'

/-- A number that grows, or stays while a rank falls, grows without bound. -/
theorem unbounded_of_ranked (number rank : Nat → Nat)
    (h : ∀ n, number n < number (n + 1) ∨ number n = number (n + 1) ∧ rank (n + 1) < rank n) (m : Nat) :
    ∃ n, m ≤ number n := by
  have grows (n : Nat) : ∃ n', number n < number n' := by
    induction hr : rank n using Nat.strong_induction_on generalizing n with
    | _ r ih =>
      rcases h n with hgrows | ⟨hstays, hfalls⟩
      · exact ⟨n + 1, hgrows⟩
      · obtain ⟨n', hn'⟩ := ih (rank (n + 1)) (hr ▸ hfalls) (n + 1) rfl
        exact ⟨n', hstays ▸ hn'⟩
  induction m with
  | zero => exact ⟨0, Nat.zero_le _⟩
  | succ m ih =>
    obtain ⟨n, hn⟩ := ih
    obtain ⟨n', hn'⟩ := grows n
    exact ⟨n', Nat.succ_le_of_lt (Nat.lt_of_le_of_lt hn hn')⟩

/-- The second machine goes through related states in the same order, and does not stop as long as the
first goes on. -/
theorem Simulation.follows (h : Simulation f g R P) {rank k l : Nat} {s : S} {t : T} (hr : R rank k s l t) :
    ∃ after : Nat → Nat, Monotone after ∧ (∀ m, ∃ n, m ≤ after n) ∧
      ∀ n, ∃ rank, Abreast f g R P k s l t n (after n) rank := by
  have start : Abreast f g R P k s l t 0 0 rank := by
    intro k' s' h'
    cases h'
    exact ⟨l, t, rfl, fun i hi => absurd hi (Nat.not_lt_zero i), hr⟩
  -- The ranks have to be chosen along one run, or nothing would forbid standing still.
  choose grow fall hgrow hlater using
    fun (n m rank : Nat) (hn : Abreast f g R P k s l t n m rank) => h.abreast_succ hn
  let along : (n : Nat) → { p : Nat × Nat // Abreast f g R P k s l t n p.1 p.2 } := fun n =>
    n.rec ⟨(0, rank), start⟩ fun n p => ⟨(grow n _ _ p.2, fall n _ _ p.2), hgrow n _ _ p.2⟩
  let after (n : Nat) : Nat := (along n).1.1
  let rankAfter (n : Nat) : Nat := (along n).1.2
  have hafter (n : Nat) : after n < after (n + 1) ∨ after n = after (n + 1) ∧ rankAfter (n + 1) < rankAfter n :=
    hlater n _ _ (along n).2
  refine ⟨after, monotone_nat_of_le_succ fun n => ?_, unbounded_of_ranked after rankAfter hafter,
    fun n => ⟨rankAfter n, (along n).2⟩⟩
  rcases hafter n with hgrows | ⟨hstays, -⟩
  · exact Nat.le_of_lt hgrows
  · exact Nat.le_of_eq hstays

/-- Where the first machine goes on without end, so does the second. -/
theorem Simulation.endless (h : Simulation f g R P) {rank k l : Nat} {s : S} {t : T} (hr : R rank k s l t)
    (hf : ∀ n, ∃ k' s', steps f n k s = .next k' s') (m : Nat) :
    ∃ l' t', steps g m l t = .next l' t' := by
  obtain ⟨after, -, hunbounded, hab⟩ := h.follows hr
  obtain ⟨n, hn⟩ := hunbounded m
  obtain ⟨k', s', hk'⟩ := hf n
  obtain ⟨rank', hab⟩ := hab n
  obtain ⟨l', t', hg, -⟩ := hab k' s' hk'
  exact next_of_le hg hn

/-- Where the first machine ends, the second ends if it does so from the last related states. -/
theorem Simulation.ends (h : Simulation f g R P) {a : A} {final : B → Prop}
    (hfinal : ∀ {rank k l : Nat} {s : S} {t : T}, R rank k s l t → f k s = .ended a →
      ∃ j b, steps g j l t = .ended b ∧ final b)
    {rank k l : Nat} {s : S} {t : T} (hr : R rank k s l t) {n : Nat} (hn : steps f n k s = .ended a) :
    ∃ m b, steps g m l t = .ended b ∧ final b := by
  obtain ⟨n', k', s', hn', hlast⟩ := last_step hn
  obtain ⟨after, -, -, hab⟩ := h.follows hr
  obtain ⟨rank', hab⟩ := hab n'
  obtain ⟨l', t', hg, -, hr'⟩ := hab k' s' hn'
  obtain ⟨j, b, hj, hb⟩ := hfinal hr' hlast
  exact ⟨after n' + j, b, by rw [steps_add hg, hj], hb⟩

/-- The second machine ends only if the first does. -/
theorem Simulation.ended_of_ended (h : Simulation f g R P) {rank k l : Nat} {s : S} {t : T}
    (hr : R rank k s l t) {m : Nat} {b : B} (hm : steps g m l t = .ended b) :
    ∃ n a, steps f n k s = .ended a := by
  by_contra hn
  have hf (n : Nat) : ∃ k' s', steps f n k s = .next k' s' := by
    cases e : steps f n k s with
    | next k' s' => exact ⟨k', s', rfl⟩
    | ended a => exact absurd ⟨n, a, e⟩ hn
  obtain ⟨l', t', hg⟩ := h.endless hr hf m
  rw [hm] at hg
  cases hg

end Simulations

/-! ## Machines that halt or get stuck -/

section Faithful
variable {S T : Type} {f : Nat → S → Step S (Ending S)} {g : Nat → T → Step T (Ending T)}
  {R : Nat → Nat → S → Nat → T → Prop} {P : T → Prop} {agrees : S → T → Prop}

/-- From `t` the second machine does what the first does from `s`: it comes to an agreeing state for every
state of the first behind its first step, in the same order and again and again as long as the first goes on;
it does not get stuck; and it halts just when the first does, in an agreeing state. -/
structure Faithful (f : Nat → S → Step S (Ending S)) (g : Nat → T → Step T (Ending T))
    (agrees : S → T → Prop) (s : S) (t : T) : Prop where
  follows : ∃ after : Nat → Nat, Monotone after ∧ (∀ m, ∃ n, m ≤ after n) ∧
    ∀ n k s', steps f (n + 1) 0 s = .next k s' → ∃ l t', steps g (after n) 0 t = .next l t' ∧ agrees s' t'
  not_stuck : ∀ n, steps g n 0 t ≠ .ended .stuck
  halts : ∀ n s', steps f n 0 s = .ended (.halted s') →
    ∃ m t', steps g m 0 t = .ended (.halted t') ∧ agrees s' t'
  halts_only : ∀ m t', steps g m 0 t = .ended (.halted t') →
    ∃ n s', steps f n 0 s = .ended (.halted s') ∧ agrees s' t'

/-- A simulation that starts behind the first step of a machine which does not get stuck. -/
theorem Simulation.faithful (h : Simulation f g R P)
    (hagrees : ∀ {rank k l : Nat} {s : S} {t : T}, R rank k s l t → agrees s t)
    (hfinal : ∀ {rank k l : Nat} {s s' : S} {t : T}, R rank k s l t → f k s = .ended (.halted s') →
      ∃ j t', steps g j l t = .ended (.halted t') ∧ agrees s' t')
    {s₀ s : S} {t₀ t : T} {rank k l j : Nat} (hf : f 0 s₀ = .next k s) (hg : steps g j 0 t₀ = .next l t)
    (hr : R rank k s l t) (hstuck : ∀ n, steps f n 0 s₀ ≠ .ended .stuck) : Faithful f g agrees s₀ t₀ := by
  have halts (n : Nat) (s' : S) (hn : steps f n 0 s₀ = .ended (.halted s')) :
      ∃ m t', steps g m 0 t₀ = .ended (.halted t') ∧ agrees s' t' := by
    cases n with
    | zero => cases hn
    | succ n =>
      rw [steps_succ hf] at hn
      have hends {rank k l : Nat} {s : S} {t : T} (hr : R rank k s l t) (hs : f k s = .ended (.halted s')) :
          ∃ i b, steps g i l t = .ended b ∧ ∃ t', b = .halted t' ∧ agrees s' t' := by
        obtain ⟨i, t', hi, ha⟩ := hfinal hr hs
        exact ⟨i, _, hi, t', rfl, ha⟩
      obtain ⟨m, b, hm, t', rfl, ha⟩ := h.ends hends hr hn
      exact ⟨j + m, t', (steps_add hg m).trans hm, ha⟩
  -- Whatever end the second machine comes to, the first comes to an end too, and halts.
  have ended (m : Nat) (b : Ending T) (hm : steps g m 0 t₀ = .ended b) :
      ∃ t', b = .halted t' ∧ ∃ n s', steps f n 0 s₀ = .ended (.halted s') ∧ agrees s' t' := by
    have hm' : steps g m l t = .ended b := by
      have := steps_add_ended hm j
      rwa [Nat.add_comm, steps_add hg] at this
    obtain ⟨n, a, hn⟩ := h.ended_of_ended hr hm'
    rw [← steps_succ hf] at hn
    cases a with
    | stuck => exact absurd hn (hstuck _)
    | halted s' =>
      obtain ⟨i, t', hi, ha⟩ := halts _ s' hn
      cases ended_unique hm hi
      exact ⟨t', rfl, _, s', hn, ha⟩
  constructor
  · obtain ⟨after, hmono, hunbounded, hab⟩ := h.follows hr
    refine ⟨fun n => j + after n, fun i i' hi => Nat.add_le_add_left (hmono hi) j, fun m => ?_,
      fun n k' s' hn => ?_⟩
    · obtain ⟨n, hn⟩ := hunbounded m
      exact ⟨n, Nat.le_trans hn (Nat.le_add_left _ j)⟩
    · rw [steps_succ hf] at hn
      obtain ⟨rank', hab⟩ := hab n
      obtain ⟨l', t', ht', -, hr'⟩ := hab k' s' hn
      exact ⟨l', t', (steps_add hg _).trans ht', hagrees hr'⟩
  · intro n hn
    obtain ⟨t', ht', -⟩ := ended n _ hn
    cases ht'
  · exact halts
  · intro m t' hm
    obtain ⟨t'', ht'', n, s', hn, ha⟩ := ended m _ hm
    cases ht''
    exact ⟨n, s', hn, ha⟩

end Faithful

end Brainfuck.Execution
