import Mathlib.Tactic.ByContra
/-!
# Rises of a height

What is open in front of each place of a list is a height. A pair of brackets is a rise of it: the height stays above
that in front of the pair up to its end, and behind the pair it is that again. Rises do not cross.
-/

namespace Brainfuck

/-- The height rises at `start` and is back behind `finish`, for the first time. -/
structure Rise (height : Nat → Int) (start finish : Nat) : Prop where
  lt : start < finish
  above : ∀ n, start < n → n ≤ finish → height start < height n
  back : height (finish + 1) = height start

namespace Rise

variable {height : Nat → Int} {i j i' j' : Nat}

/-- A rise that starts inside another one ends there. -/
theorem within (h : Rise height i j) (h' : Rise height i' j') (hi : i < i') : j < i' ∨ j' < j := by
  by_contra hcross
  -- In front of the second rise it is higher than in front of the first, and behind the first it is not.
  have hhigher := h.above i' hi (by omega)
  have hback := h.back
  rcases Nat.lt_or_eq_of_le (show j ≤ j' by omega) with hlt | rfl
  · have := h'.above (j + 1) (by omega) hlt
    omega
  · have := h'.back
    omega

theorem finish_unique (h : Rise height i j) (h' : Rise height i j') : j = j' := by
  -- Of two ends the further one has the height above the start behind the nearer one.
  have hle {j j' : Nat} (h : Rise height i j) (h' : Rise height i j') : j' ≤ j := by
    by_contra hlt
    have := h'.above (j + 1) (Nat.lt_succ_of_lt h.lt) (by omega)
    have := h.back
    omega
  exact Nat.le_antisymm (hle h' h) (hle h h')

end Rise

end Brainfuck
