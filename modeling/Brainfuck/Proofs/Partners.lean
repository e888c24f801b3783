import Brainfuck.Interpreter.Partners
import Brainfuck.Proofs.Balance
/-!
# Loop partners are the two ends of a loop

`loopPartners_flatten`: every flattened block gets a table. `loopPartners_withLoop`: in that table the two
ends of a loop point at each other, wherever the loop stands in the program.
-/

namespace Brainfuck

theorem partnersFrom_other {i : Instruction} (hi : i.nesting = 0) (rest : List Instruction) (n : Nat)
    (opened : List Nat) (table : Array Nat) :
    partnersFrom (i :: rest) n opened table = partnersFrom rest (n + 1) opened table := by
  cases i <;> simp_all [Instruction.nesting, partnersFrom]

/-! ## What the rest of the program keeps -/

/-- The table has its final entry wherever the loop is no longer open. -/
theorem partnersFrom_keeps {program : List Instruction} {n : Nat} {opened : List Nat}
    {table partners : Array Nat} (h : partnersFrom program n opened table = .ok partners) :
    partners.size = table.size ∧ ∀ k < n, k ∉ opened → partners[k]? = table[k]? := by
  induction program generalizing n opened table with
  | nil =>
    simp only [partnersFrom] at h
    split at h
    · cases h; exact ⟨rfl, fun _ _ _ => rfl⟩
    · cases h
  | cons i rest ih =>
    cases i with
    | startLoop =>
      obtain ⟨hs, hk⟩ := ih (by simpa only [partnersFrom] using h)
      refine ⟨hs, fun k hkn hko => hk k (by omega) ?_⟩
      simp only [List.mem_cons, not_or]
      exact ⟨by omega, hko⟩
    | finishLoop =>
      cases opened with
      | nil => simp [partnersFrom] at h
      | cons start outer =>
        -- The two places written here are this one and the start of a loop that was open.
        obtain ⟨hs, hk⟩ := ih (by simpa only [partnersFrom] using h)
        refine ⟨by simpa using hs, fun k hkn hko => ?_⟩
        simp only [List.mem_cons, not_or] at hko
        rw [hk k (by omega) hko.2, Array.getElem?_setIfInBounds_ne (by omega),
          Array.getElem?_setIfInBounds_ne (by omega)]
    | increment | moveHead | input | output =>
      rw [partnersFrom_other rfl] at h
      obtain ⟨hs, hk⟩ := ih h
      exact ⟨hs, fun k hkn hko => hk k (by omega) hko⟩

/-- Behind a piece of the program the pass goes on with loops opened before that place. -/
theorem partnersFrom_append {pre rest : List Instruction} {n : Nat} {opened : List Nat}
    {table partners : Array Nat} (h : partnersFrom (pre ++ rest) n opened table = .ok partners)
    (ho : ∀ k ∈ opened, k < n) :
    ∃ opened' table', partnersFrom rest (n + pre.length) opened' table' = .ok partners ∧
      (∀ k ∈ opened', k < n + pre.length) ∧ table'.size = table.size := by
  induction pre generalizing n opened table with
  | nil => exact ⟨opened, table, h, ho, rfl⟩
  | cons i pre ih =>
    rw [List.cons_append] at h
    have e : n + (i :: pre).length = n + 1 + pre.length := by simp only [List.length_cons]; omega
    rw [e]
    cases i with
    | startLoop =>
      refine ih (by simpa only [partnersFrom] using h) fun k hk => ?_
      rcases List.mem_cons.1 hk with rfl | hk
      · omega
      · have := ho k hk; omega
    | finishLoop =>
      cases opened with
      | nil => simp [partnersFrom] at h
      | cons start outer =>
        simp only [partnersFrom] at h
        obtain ⟨opened', table', h', ho', hs⟩ :=
          ih h fun k hk => by have := ho k (List.mem_cons_of_mem _ hk); omega
        exact ⟨opened', table', h', ho', by simpa using hs⟩
    | increment | moveHead | input | output =>
      rw [partnersFrom_other rfl] at h
      exact ih h fun k hk => by have := ho k hk; omega

/-! ## Blocks -/

/-- A block leaves the open loops alone and writes at its own places only. -/
theorem partnersFrom_flatten (b : Block) (rest : List Instruction) (n : Nat) (opened : List Nat)
    (table : Array Nat) :
    ∃ table', partnersFrom (b.flatten ++ rest) n opened table =
        partnersFrom rest (n + b.flatten.length) opened table' ∧
      table'.size = table.size ∧ ∀ k < n, table'[k]? = table[k]? := by
  induction b generalizing rest n opened table with
  | done => exact ⟨table, rfl, rfl, fun _ _ => rfl⟩
  | increment _ next ih | moveHead _ next ih | input next ih | output next ih =>
    obtain ⟨table', e, hs, hk⟩ := ih rest (n + 1) opened table
    refine ⟨table', ?_, hs, fun k hkn => hk k (by omega)⟩
    rw [Block.flatten, List.cons_append, partnersFrom_other rfl, e, List.length_cons]
    congr 1; omega
  | loop body next ihb ihn =>
    -- The table behind the body, then with the two ends of the loop, then behind what follows.
    obtain ⟨table₁, e₁, hs₁, hk₁⟩ := ihb (.finishLoop :: next.flatten ++ rest) (n + 1) (n :: opened) table
    obtain ⟨table₂, e₂, hs₂, hk₂⟩ := ihn rest (n + 1 + body.flatten.length + 1) opened
      ((table₁.setIfInBounds n (n + 1 + body.flatten.length)).setIfInBounds (n + 1 + body.flatten.length) n)
    refine ⟨table₂, ?_, by simp [hs₂, hs₁], fun k hkn => ?_⟩
    · simp only [Block.flatten, List.cons_append, List.append_assoc, partnersFrom] at e₁ e₂ ⊢
      rw [e₁, e₂]
      congr 1
      simp only [List.length_cons, List.length_append]; omega
    · rw [hk₂ k (by omega), Array.getElem?_setIfInBounds_ne (by omega),
        Array.getElem?_setIfInBounds_ne (by omega), hk₁ k (by omega)]

/-- Every entry that is written is the index of an instruction. -/
theorem partnersFrom_lt {program : List Instruction} {n bound : Nat} {opened : List Nat}
    {table partners : Array Nat} (h : partnersFrom program n opened table = .ok partners)
    (hn : n + program.length ≤ bound) (ho : ∀ k ∈ opened, k < bound) (ht : ∀ k ∈ table, k < bound) :
    ∀ k ∈ partners, k < bound := by
  induction program generalizing n opened table with
  | nil =>
    simp only [partnersFrom] at h
    split at h
    · cases h
      exact ht
    · cases h
  | cons i rest ih =>
    rw [List.length_cons] at hn
    cases i with
    | startLoop =>
      refine ih (by simpa only [partnersFrom] using h) (by omega) (fun k hk => ?_) ht
      rcases List.mem_cons.1 hk with rfl | hk
      · omega
      · exact ho k hk
    | finishLoop =>
      cases opened with
      | nil => simp [partnersFrom] at h
      | cons start outer =>
        have hstart : start < bound := ho start List.mem_cons_self
        refine ih (by simpa only [partnersFrom] using h) (by omega)
          (fun k hk => ho k (List.mem_cons_of_mem _ hk)) (fun k hk => ?_)
        rcases Array.mem_or_eq_of_mem_setIfInBounds hk with hk | rfl
        · rcases Array.mem_or_eq_of_mem_setIfInBounds hk with hk | rfl
          · exact ht k hk
          · omega
        · exact hstart
    | increment | moveHead | input | output =>
      rw [partnersFrom_other rfl] at h
      exact ih h (by omega) ho ht

/-- The table has one entry for each instruction, and each entry is the index of an instruction. -/
theorem loopPartners_lt {program : List Instruction} {partners : Array Nat} (h : loopPartners program = .ok partners) :
    partners.size = program.length ∧ ∀ k ∈ partners, k < program.length := by
  rw [loopPartners] at h
  constructor
  · rw [(partnersFrom_keeps h).1, Array.size_replicate]
  · refine partnersFrom_lt h (by simp) (by simp) (fun k hk => ?_)
    obtain ⟨hne, rfl⟩ := Array.mem_replicate.1 hk
    omega

theorem loopPartners_flatten (b : Block) : ∃ partners, loopPartners b.flatten = .ok partners := by
  obtain ⟨table, e, -, -⟩ := partnersFrom_flatten b [] 0 [] (Array.replicate b.flatten.length 0)
  refine ⟨table, ?_⟩
  rw [List.append_nil] at e
  rw [loopPartners, e]
  rfl

theorem exists_loopPartners {program : List Instruction} (h : Balanced program) :
    ∃ partners, loopPartners program = .ok partners := by
  obtain ⟨b, rfl⟩ := (balanced_iff_flatten program).1 h
  exact loopPartners_flatten b

/-- Both ends of a loop know each other. -/
theorem loopPartners_withLoop {before after : List Instruction} {body : Block} {partners : Array Nat}
    (h : loopPartners (withLoop before body after) = .ok partners) :
    partners[before.length]? = some (before.length + 1 + body.flatten.length) ∧
      partners[before.length + 1 + body.flatten.length]? = some before.length := by
  generalize hn : before.length = n
  generalize hm : n + 1 + body.flatten.length = m
  rw [loopPartners, withLoop_length, hn, hm, withLoop] at h
  obtain ⟨opened, table, h, ho, hs⟩ := partnersFrom_append h (by simp)
  simp only [Nat.zero_add, hn] at h ho
  rw [partnersFrom] at h
  obtain ⟨table', e, hs', -⟩ :=
    partnersFrom_flatten body (.finishLoop :: after) (n + 1) (n :: opened) table
  rw [e, hm] at h
  simp only [partnersFrom] at h
  have hsize : table'.size = m + 1 + after.length := by rw [hs', hs, Array.size_replicate]
  -- Neither end is open behind the loop, so nothing writes there any more.
  have hk := (partnersFrom_keeps h).2
  rw [hk n (by omega) (fun hmem => by have := ho n hmem; omega),
    hk m (by omega) (fun hmem => by have := ho m hmem; omega)]
  constructor
  · rw [Array.getElem?_setIfInBounds_ne (by omega), Array.getElem?_setIfInBounds_self_of_lt (by omega)]
  · rw [Array.getElem?_setIfInBounds_self_of_lt (by simp; omega)]

end Brainfuck
