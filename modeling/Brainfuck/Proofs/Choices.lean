import Brainfuck.Options.Calls
/-!
# The last choice counts

`choices_lastGiven`: every build makes the options that the last value given for each of them chooses, whatever else has
been called before.

`Holds` says what choices hold behind any calls. The driver they started with is still there, as it was, and nothing
that is built depends on it.
-/

namespace Brainfuck.Options

open Choices (Call)

variable {created env : Environment} {past past' : List Call} {c c' : Choices}

theorem lastGiven_concat {α : Type} (value? : Call → Option α) (past : List Call) (call : Call) :
    lastGiven value? (past ++ [call]) = (value? call).or (lastGiven value? past) := by
  rw [lastGiven, List.filterMap_append]
  cases h : value? call <;> simp [lastGiven, h]

/-! ## What choices hold -/

/-- The choices were started in an environment and have seen these calls. -/
structure Holds (created : Environment) (past : List Call) (c : Choices) : Prop where
  tapeLength : c.settings.tapeLength = (lastGiven Call.tapeLength? past).getD defaultTapeLength
  target : c.settings.target = (lastGiven Call.target? past).getD default
  optimizationLevel : c.settings.optimizationLevel =
    ((lastGiven Call.optimizationLevel? past).map fun level => min level maxOptimizationLevel).getD
      defaultOptimizationLevel
  driver : c.driver = lastGiven Call.driver? past
  unchosen : c.settings.driver = created.driverFor default

namespace Holds

theorem initial (created : Environment) : Holds created [] (.initial created) := ⟨rfl, rfl, rfl, rfl, rfl⟩

/-- A call gives its own value and leaves the others alone. -/
theorem perform (h : Holds created past c) (env : Environment) (call : Call) :
    Holds created (past ++ [call]) (c.perform env call).2 where
  tapeLength := by
    rw [lastGiven_concat]
    cases call with
    | setTapeLength length => rfl
    | _ => exact h.tapeLength
  target := by
    rw [lastGiven_concat]
    cases call with
    | setTarget target => rfl
    | _ => exact h.target
  optimizationLevel := by
    rw [lastGiven_concat]
    cases call with
    | setOptimizationLevel level => rfl
    | _ => exact h.optimizationLevel
  driver := by
    rw [lastGiven_concat]
    cases call with
    | setDriver driver => rfl
    | _ => exact h.driver
  unchosen := by cases call <;> exact h.unchosen

theorem after (h : Holds created past c) (calls : List Call) : Holds created (past ++ calls) (c.after env calls) := by
  induction calls generalizing past c with
  | nil => rwa [List.append_nil]
  | cons call calls ih =>
    have hrest := ih (h.perform env call)
    rwa [List.append_assoc] at hrest

/-- Where no driver has been given it goes by the target of the moment. -/
theorem options_driver (h : Holds created past c) (hnone : lastGiven Call.driver? past = none) :
    (c.options env).driver = env.driverFor c.settings.target := by
  rw [Choices.options, h.driver, hnone, Option.getD_none]

/-- What is built is what the calls choose. The driver among the settings is replaced by another one. -/
theorem chosen (h : Holds created past c) : Chosen env past (c.options env) where
  tapeLength := h.tapeLength
  target := h.target
  optimizationLevel := h.optimizationLevel
  driverGiven driver hgiven := by rw [Choices.options, h.driver, hgiven, Option.getD_some]
  driverOfVariable hnone driver hvariable := by simp only [h.options_driver hnone, Environment.driverFor, hvariable]
  driverOfLlvm hnone hvariable htarget := by
    have hllvm : c.settings.target = .llvm := htarget
    simp only [h.options_driver hnone, Environment.driverFor, hvariable, hllvm]
  driverOfC hnone hvariable htarget := by
    have hc : c.settings.target = .c := htarget
    simp only [h.options_driver hnone, Environment.driverFor, hvariable, hc]

/-- The calls say all there is to say of the choices behind them. -/
theorem unique (h : Holds created past c) (h' : Holds created past' c') (hsame : SameChoices past past') : c = c' := by
  have hlast {α : Type} {value? : Call → Option α} (hvalues : past.filterMap value? = past'.filterMap value?) :
      lastGiven value? past = lastGiven value? past' := by rw [lastGiven, hvalues, lastGiven]
  refine Choices.ext (Options.ext ?_ ?_ ?_ ?_) ?_
  · rw [h.tapeLength, h'.tapeLength, hlast hsame.tapeLength]
  · rw [h.target, h'.target, hlast hsame.target]
  · rw [h.unchosen, h'.unchosen]
  · rw [h.optimizationLevel, h'.optimizationLevel, hlast hsame.optimizationLevel]
  · rw [h.driver, h'.driver, hlast hsame.driver]

end Holds

/-! ## What is built -/

/-- Behind any calls, from the start. -/
theorem holds_after (created env : Environment) (past : List Call) :
    Holds created past ((Choices.initial created).after env past) :=
  (Holds.initial created).after past

theorem answers_build {calls : List Call} {k : Nat} (hk : calls[k]? = some .build) (c : Choices) :
    (c.answers env calls)[k]? = some (some ((c.after env (calls.take k)).options env)) := by
  induction calls generalizing c k with
  | nil => cases hk
  | cons call calls ih =>
    cases k with
    | zero =>
      cases hk
      rfl
    | succ k => exact ih hk _

theorem sameChoices_build (past : List Call) : SameChoices (past ++ [.build]) past := by
  constructor <;> rw [List.filterMap_append] <;> exact List.append_nil _

theorem choices_lastGiven (created env : Environment) :
    (∀ calls k, calls[k]? = some Call.build → ∃ options,
      ((Choices.initial created).answers env calls)[k]? = some (some options) ∧ Chosen env (calls.take k) options) ∧
    (∀ past rest, ((Choices.initial created).after env (past ++ [.build])).answers env rest =
      ((Choices.initial created).after env past).answers env rest) ∧
    (∀ past past' rest, SameChoices past past' →
      ((Choices.initial created).after env past).answers env rest =
        ((Choices.initial created).after env past').answers env rest) ∧
    ∀ past target, let options := ((Choices.initial created).after env (past ++ [.setTarget target])).options env
      (lastGiven Call.driver? past = none → options.driver = env.driverFor target) ∧
      ∀ driver, lastGiven Call.driver? past = some driver → options.driver = driver := by
  have hsame (past past' : List Call) (h : SameChoices past past') :
      (Choices.initial created).after env past = (Choices.initial created).after env past' :=
    (holds_after created env past).unique (holds_after created env past') h
  refine ⟨fun calls k hk => ?_, fun past rest => ?_, fun past past' rest h => ?_, fun past target => ?_⟩
  · exact ⟨_, answers_build hk _, (holds_after created env _).chosen⟩
  · rw [hsame _ _ (sameChoices_build past)]
  · rw [hsame _ _ h]
  · -- The new target is no driver.
    have hholds := holds_after created env (past ++ [.setTarget target])
    have hdriver : lastGiven Call.driver? (past ++ [.setTarget target]) = lastGiven Call.driver? past :=
      lastGiven_concat ..
    have htarget : lastGiven Call.target? (past ++ [.setTarget target]) = some target := lastGiven_concat ..
    refine ⟨fun hnone => ?_, fun driver hgiven => ?_⟩
    · rw [hholds.options_driver (hdriver.trans hnone), hholds.target, htarget, Option.getD_some]
    · exact hholds.chosen.driverGiven driver (hdriver.trans hgiven)

/-- The first build has the driver of its environment, the second one the driver that was given in between, as it would
have had it been given first. The variable that was there at the start is in neither. -/
theorem choices_lastGiven_driverBetweenTargets :
    let created : Environment := ⟨[("BFCC_CC", "gcc")]⟩
    let env : Environment := ⟨[("CC", "tcc")]⟩
    let calls : List Call :=
      [.setTarget .c, .build, .setDriver "clang-18", .setOptimizationLevel 7, .setTarget .llvm, .build]
    let permuted : List Call := [.setDriver "clang-18", .setOptimizationLevel 7, .setTarget .c, .setTarget .llvm]
    Chosen env (calls.take 1) ⟨30000, .c, "tcc", 2⟩ ∧ Chosen env (calls.take 5) ⟨30000, .llvm, "clang-18", 3⟩ ∧
      ((Choices.initial created).after env permuted).answers env [.build] =
        ((Choices.initial created).after env calls).answers env [.build] := by
  intro created env calls permuted
  obtain ⟨hbuilds, -, horder, -⟩ := choices_lastGiven created env
  have hanswers : (Choices.initial created).answers env calls =
      [none, some ⟨30000, .c, "tcc", 2⟩, none, none, none, some ⟨30000, .llvm, "clang-18", 3⟩] := by decide
  obtain ⟨first, hfirst, hchosenFirst⟩ := hbuilds calls 1 rfl
  obtain ⟨second, hsecond, hchosenSecond⟩ := hbuilds calls 5 rfl
  rw [hanswers] at hfirst hsecond
  cases hfirst
  cases hsecond
  exact ⟨hchosenFirst, hchosenSecond, horder permuted calls [.build] ⟨rfl, rfl, rfl, rfl⟩⟩

end Brainfuck.Options
