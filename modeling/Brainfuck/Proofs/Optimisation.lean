import Brainfuck.Proofs.Blocks
import Brainfuck.Proofs.Coalescing
import Mathlib
/-!
# Optimising keeps the meaning of a source

`instructions_preserve`: a run of the commands one by one that succeeds, fails at a stream or goes on forever
does the same when runs are merged and dropped. Only a refused position may be hidden by it: `<>` leaves the
tape command by command, and does nothing once it is dropped.

Towards the optimised block the meaning is kept run by run; `Covers` is the way back.
-/

namespace Brainfuck

open Interpreter (Ends RunsForever)

/-! ## What has been written -/

/-- The bytes the output has accepted. -/
def Interpreter.written (s : Interpreter) : List UInt8 :=
  match s.output with
  | none => []
  | some writer => writer.bytes.toList

section Written
variable {s t : Interpreter} {result : Except Error Unit}

theorem written_moveHead {offset : Int} (h : s.moveHead offset = (result, t)) : t.written = s.written := by
  rw [Interpreter.moveHead] at h
  split at h <;> cases h <;> rfl

theorem written_readCell (h : s.readCell = (result, t)) : t.written = s.written := by
  rw [Interpreter.readCell] at h
  split at h
  next => cases h; rfl
  next => split at h <;> cases h <;> rfl

theorem written_writeCell (h : s.writeCell = (result, t)) : s.written <+: t.written := by
  unfold Interpreter.writeCell at h
  split at h
  next tape head input writer =>
    simp only [Writer.write] at h
    cases hw : writer.onWrite writer.writes with
    | none =>
      simp only [hw] at h
      cases h
      exact ⟨[tape.getD head 0], by simp [Interpreter.written]⟩
    | some e =>
      simp only [hw] at h
      cases h
      exact List.prefix_refl _
  next => cases h; exact List.prefix_refl _

theorem written_flush (h : s.flush = (result, t)) : t.written = s.written := by
  unfold Interpreter.flush at h
  split at h
  next tape head input writer =>
    simp only [Writer.flush] at h
    cases hw : writer.onFlush writer.flushes with
    | none => simp only [hw] at h; cases h; rfl
    | some e => simp only [hw] at h; cases h; rfl
  next => cases h; rfl

end Written

namespace Block

theorem Runs.written_prefix {b : Block} {s t : Interpreter} {result : Except Error Unit}
    (h : b.Runs s result t) : s.written <+: t.written := by
  induction h with
  | done => exact List.prefix_refl _
  | increment _ ih => exact ih
  | moveHead hm _ ih => exact written_moveHead hm ▸ ih
  | moveHead_error hm => exact written_moveHead hm ▸ List.prefix_refl _
  | input hr _ ih => exact written_readCell hr ▸ ih
  | input_error hr => exact written_readCell hr ▸ List.prefix_refl _
  | output hw _ ih => exact (written_writeCell hw).trans ih
  | output_error hw => exact written_writeCell hw
  | loop_done _ _ ih => exact ih
  | loop_pass _ _ _ ihb ihn => exact ihb.trans ihn
  | loop_error _ _ ih => exact ih

end Block

/-! ## Refused positions -/

/-- The run ended because the head was refused a position. -/
def HeadRefused (result : Except Error Unit) : Prop :=
  ∃ e, result = .error e ∧ (e = .headOverflow ∨ e = .tapeUnderflow ∨ e = .tapeOverflow)

theorem not_headRefused_ok : ¬ HeadRefused (.ok ()) := by
  rintro ⟨e, he, -⟩
  cases he

namespace Interpreter

variable {s t : Interpreter}

theorem moveHead_ok {offset : Int} (h : s.moveHead offset = (.ok (), t)) :
    ∃ head, movedHead s.tape.size s.head offset = .ok head ∧ t = { s with head := head } := by
  rw [moveHead] at h
  split at h
  next head hm => cases h; exact ⟨head, hm, rfl⟩
  next => cases h

theorem moveHead_error {offset : Int} {e : Error} (h : s.moveHead offset = (.error e, t)) :
    movedHead s.tape.size s.head offset = .error e ∧ t = s := by
  rw [moveHead] at h
  split at h
  next => cases h
  next hm => cases h; exact ⟨hm, rfl⟩

theorem headRefused_of_moveHead {offset : Int} {e : Error} (h : s.moveHead offset = (.error e, t)) :
    HeadRefused (.error e) := by
  refine ⟨e, rfl, ?_⟩
  rcases movedHead_error (moveHead_error h).1 with ⟨he, -⟩ | ⟨he, -⟩ | ⟨he, -⟩
  exacts [.inl he, .inr (.inl he), .inr (.inr he)]

/-- Two moves in a row go where their sum goes. -/
theorem movedHead_add {size head mid : Nat} {a c : Int} (h : movedHead size head a = .ok mid) :
    movedHead size mid c = movedHead size head (a + c) := by
  rw [movedHead, movedHead, (movedHead_ok h).1, Int.add_assoc]

theorem moveHead_add_ok {a c : Int} {s' : Interpreter} (h : s.moveHead a = (.ok (), s')) :
    s'.moveHead c = (.ok (), t) ↔ s.moveHead (a + c) = (.ok (), t) := by
  obtain ⟨head, hm, rfl⟩ := moveHead_ok h
  simp only [moveHead, movedHead_add hm]
  cases movedHead s.tape.size s.head (a + c) <;> simp

theorem moveHead_add_error {a c : Int} {e : Error} {s' : Interpreter} (h : s.moveHead a = (.ok (), s'))
    (hadd : s.moveHead (a + c) = (.error e, t)) : s'.moveHead c = (.error e, s') := by
  obtain ⟨head, hm, rfl⟩ := moveHead_ok h
  simp only [moveHead, movedHead_add hm, (moveHead_error hadd).1]

theorem increment_add (a c : Int) : (s.increment a).increment c = s.increment (a + c) := by
  obtain ⟨tape, head, input, output⟩ := s
  by_cases hlt : head < tape.size
  · simp [increment, hlt, Array.getD_eq_getD_getElem?, UInt8.ofInt_add, UInt8.add_assoc]
  · simp [increment, Array.setIfInBounds, hlt]

theorem increment_zero (s : Interpreter) : s.increment 0 = s := by
  obtain ⟨tape, head, input, output⟩ := s
  by_cases hlt : head < tape.size
  · have h0 : UInt8.ofInt 0 = 0 := rfl
    simp [increment, hlt, Array.getD_eq_getD_getElem?, h0, Array.setIfInBounds]
  · simp [increment, Array.setIfInBounds, hlt]

theorem moveHead_zero (h : s.moveHead 0 = (.ok (), t)) : t = s := by
  obtain ⟨head, hm, rfl⟩ := moveHead_ok h
  have := (movedHead_ok hm).1
  obtain rfl : head = s.head := by omega
  rfl

end Interpreter

/-! ## Towards the optimised block -/

namespace Block

variable {b : Block} {s s' t : Interpreter} {result : Except Error Unit}

theorem runs_addIncrement (amount : Int) (b : Block) :
    (b.addIncrement amount).Runs s result t ↔ (increment amount b).Runs s result t := by
  cases b with
  | increment more next =>
    constructor
    · rintro (_ | hr)
      rw [← Interpreter.increment_add] at hr
      exact .increment (.increment hr)
    · rintro (_ | hr)
      cases hr with
      | increment hr =>
        rw [Interpreter.increment_add] at hr
        exact .increment hr
  | done | moveHead | input | output | loop => exact Iff.rfl

theorem Runs.addMove {offset : Int} (hm : s.moveHead offset = (.ok (), s')) (h : b.Runs s' result t)
    (hr : ¬ HeadRefused result) : (b.addMove offset).Runs s result t := by
  -- Only a move merges with the move in front of it.
  cases h with
  | moveHead hm' h' => exact .moveHead ((Interpreter.moveHead_add_ok hm).1 hm') h'
  | moveHead_error hm' => exact absurd (Interpreter.headRefused_of_moveHead hm') hr
  | done => exact .moveHead hm (.done _)
  | increment h' => exact .moveHead hm (.increment h')
  | input hread h' => exact .moveHead hm (.input hread h')
  | input_error hread => exact .moveHead hm (.input_error hread)
  | output hwrite h' => exact .moveHead hm (.output hwrite h')
  | output_error hwrite => exact .moveHead hm (.output_error hwrite)
  | loop_done h0 h' => exact .moveHead hm (.loop_done h0 h')
  | loop_pass h0 hb h' => exact .moveHead hm (.loop_pass h0 hb h')
  | loop_error h0 hb => exact .moveHead hm (.loop_error h0 hb)

theorem Runs.coalesced (h : b.Runs s result t) (hr : ¬ HeadRefused result) :
    b.coalesced.Runs s result t := by
  induction h with
  | done s => exact .done s
  | increment _ ih => exact (runs_addIncrement _ _).2 (.increment (ih hr))
  | moveHead hm _ ih => exact .addMove hm (ih hr) hr
  | moveHead_error hm => exact absurd (Interpreter.headRefused_of_moveHead hm) hr
  | input hread _ ih => exact .input hread (ih hr)
  | input_error hread => exact .input_error hread
  | output hwrite _ ih => exact .output hwrite (ih hr)
  | output_error hwrite => exact .output_error hwrite
  | loop_done h0 _ ih => exact .loop_done h0 (ih hr)
  | loop_pass h0 _ _ ihb ihn => exact .loop_pass h0 (ihb not_headRefused_ok) (ihn hr)
  | loop_error h0 _ ih => exact .loop_error h0 (ih hr)

theorem Runs.effective (h : b.Runs s result t) (hr : ¬ HeadRefused result) :
    b.effective.Runs s result t := by
  induction h with
  | done s => exact .done s
  | @increment amount next s _ _ _ ih =>
    rw [Block.effective]
    split
    next h0 => rw [h0, Interpreter.increment_zero] at ih; exact ih hr
    next => exact .increment (ih hr)
  | moveHead hm _ ih =>
    rw [Block.effective]
    split
    next h0 =>
      subst h0
      rw [← Interpreter.moveHead_zero hm]
      exact ih hr
    next => exact .moveHead hm (ih hr)
  | moveHead_error hm => exact absurd (Interpreter.headRefused_of_moveHead hm) hr
  | input hread _ ih => exact .input hread (ih hr)
  | input_error hread => exact .input_error hread
  | output hwrite _ ih => exact .output hwrite (ih hr)
  | output_error hwrite => exact .output_error hwrite
  | loop_done h0 _ ih => exact .loop_done h0 (ih hr)
  | loop_pass h0 _ _ ihb ihn => exact .loop_pass h0 (ihb not_headRefused_ok) (ihn hr)
  | loop_error h0 _ ih => exact .loop_error h0 (ih hr)

theorem Runs.optimised (h : b.Runs s result t) (hr : ¬ HeadRefused result) :
    b.optimised.Runs s result t := (h.coalesced hr).effective hr

/-- The flush is the same in both. -/
theorem Completes.optimised (h : b.Completes s result t) (hr : ¬ HeadRefused result) :
    b.optimised.Completes s result t := by
  cases h with
  | flushed h hf => exact .flushed (h.optimised not_headRefused_ok) hf
  | failed h => exact .failed (h.optimised hr)

/-! ## Back from the optimised block -/

/-- `result` in state `t` again, or a refused head after writing a beginning of what `t` has written. -/
def AsFar (result : Except Error Unit) (t : Interpreter) (result' : Except Error Unit) (t' : Interpreter) : Prop :=
  (result' = result ∧ t' = t) ∨ (HeadRefused result' ∧ t'.written <+: t.written)

/-- However `b'` ends, `b` ends too: alike, or because its head is refused a position on the way. -/
def Covers (b b' : Block) : Prop :=
  ∀ (s t : Interpreter) (result : Except Error Unit), b'.Runs s result t →
    ∃ result' t', b.Runs s result' t' ∧ AsFar result t result' t'

theorem AsFar.refl (result : Except Error Unit) (t : Interpreter) : AsFar result t result t := .inl ⟨rfl, rfl⟩

theorem AsFar.trans {t₁ t₂ t₃ : Interpreter} {r₁ r₂ r₃ : Except Error Unit} (h : AsFar r₁ t₁ r₂ t₂)
    (h' : AsFar r₂ t₂ r₃ t₃) : AsFar r₁ t₁ r₃ t₃ := by
  rcases h' with ⟨rfl, rfl⟩ | ⟨hr', hw'⟩
  · exact h
  · rcases h with ⟨-, rfl⟩ | ⟨-, hw⟩
    · exact .inr ⟨hr', hw'⟩
    · exact .inr ⟨hr', hw'.trans hw⟩

theorem Covers.refl (b : Block) : Covers b b := fun _ _ _ h => ⟨_, _, h, .refl _ _⟩

theorem Covers.trans {b₁ b₂ b₃ : Block} (h : Covers b₁ b₂) (h' : Covers b₂ b₃) : Covers b₁ b₃ := by
  intro s t result hr
  obtain ⟨r₂, t₂, h₂, hf₂⟩ := h' _ _ _ hr
  obtain ⟨r₁, t₁, h₁, hf₁⟩ := h _ _ _ h₂
  exact ⟨r₁, t₁, h₁, hf₂.trans hf₁⟩

section Congruence
variable {next next' body body' : Block}

theorem Covers.increment (h : Covers next next') (amount : Int) :
    Covers (increment amount next) (increment amount next') := by
  rintro s t result (_ | hr)
  obtain ⟨r, u, hu, hf⟩ := h _ _ _ hr
  exact ⟨r, u, .increment hu, hf⟩

theorem Covers.moveHead (h : Covers next next') (offset : Int) :
    Covers (moveHead offset next) (moveHead offset next') := by
  intro s t result hr
  cases hr with
  | moveHead hm hr =>
    obtain ⟨r, u, hu, hf⟩ := h _ _ _ hr
    exact ⟨r, u, .moveHead hm hu, hf⟩
  | moveHead_error hm => exact ⟨_, _, .moveHead_error hm, .refl _ _⟩

theorem Covers.input (h : Covers next next') : Covers (input next) (input next') := by
  intro s t result hr
  cases hr with
  | input hread hr =>
    obtain ⟨r, u, hu, hf⟩ := h _ _ _ hr
    exact ⟨r, u, .input hread hu, hf⟩
  | input_error hread => exact ⟨_, _, .input_error hread, .refl _ _⟩

theorem Covers.output (h : Covers next next') : Covers (output next) (output next') := by
  intro s t result hr
  cases hr with
  | output hwrite hr =>
    obtain ⟨r, u, hu, hf⟩ := h _ _ _ hr
    exact ⟨r, u, .output hwrite hu, hf⟩
  | output_error hwrite => exact ⟨_, _, .output_error hwrite, .refl _ _⟩

theorem Covers.loop (hb : Covers body body') (hn : Covers next next') :
    Covers (loop body next) (loop body' next') := by
  intro s t result h
  -- On the run of the second loop: a pass of it is followed by a run of the same loop.
  generalize hl : Block.loop body' next' = l at h
  induction h with
  | loop_done h0 hr =>
    cases hl
    obtain ⟨r, u, hu, hf⟩ := hn _ _ _ hr
    exact ⟨r, u, .loop_done h0 hu, hf⟩
  | loop_pass h0 hpass hr _ ih =>
    cases hl
    obtain ⟨r, u, hu, ⟨rfl, rfl⟩ | ⟨hrefused, hw⟩⟩ := hb _ _ _ hpass
    · obtain ⟨r', u', hu', hf⟩ := ih rfl
      exact ⟨r', u', .loop_pass h0 hu hu', hf⟩
    · -- The head is refused within the pass, when no more has been written than behind it.
      obtain ⟨e, rfl, he⟩ := hrefused
      exact ⟨_, u, .loop_error h0 hu, .inr ⟨⟨e, rfl, he⟩, hw.trans hr.written_prefix⟩⟩
  | loop_error h0 hpass =>
    cases hl
    obtain ⟨r, u, hu, ⟨rfl, rfl⟩ | ⟨⟨e, rfl, he⟩, hw⟩⟩ := hb _ _ _ hpass
    · exact ⟨_, _, .loop_error h0 hu, .refl _ _⟩
    · exact ⟨_, u, .loop_error h0 hu, .inr ⟨⟨e, rfl, he⟩, hw⟩⟩
  | done | increment | moveHead | moveHead_error | input | input_error | output | output_error => cases hl

end Congruence

/-- A refused first move ends the run before anything is written. -/
theorem asFar_of_moveHead_error {offset : Int} {e : Error} {u : Interpreter}
    (hm : s.moveHead offset = (.error e, u)) (hw : s.written <+: t.written) :
    AsFar result t (.error e) u :=
  .inr ⟨Interpreter.headRefused_of_moveHead hm, by rw [written_moveHead hm]; exact hw⟩

theorem covers_addIncrement (amount : Int) (b : Block) : Covers (increment amount b) (b.addIncrement amount) :=
  fun _ _ _ h => ⟨_, _, (runs_addIncrement amount b).1 h, .refl _ _⟩

theorem covers_addMove (offset : Int) (b : Block) : Covers (moveHead offset b) (b.addMove offset) := by
  cases b with
  | moveHead more next =>
    intro s t result h
    have hw := h.written_prefix
    -- The place between the two moves may be one that is refused, though their sum is not.
    rcases hm : s.moveHead offset with ⟨e | ⟨⟩, s'⟩
    · exact ⟨_, _, .moveHead_error hm, asFar_of_moveHead_error hm hw⟩
    · cases h with
      | moveHead hadd hr =>
        exact ⟨_, _, .moveHead hm (.moveHead ((Interpreter.moveHead_add_ok hm).2 hadd) hr), .refl _ _⟩
      | moveHead_error hadd =>
        refine ⟨_, _, .moveHead hm (.moveHead_error (Interpreter.moveHead_add_error hm hadd)), .inr ⟨?_, ?_⟩⟩
        · exact Interpreter.headRefused_of_moveHead hadd
        · rw [written_moveHead hm]; exact hw
  | done | increment | input | output | loop => exact .refl _

theorem covers_increment_zero (b : Block) : Covers (increment 0 b) b := by
  intro s t result h
  refine ⟨_, _, .increment ?_, .refl _ _⟩
  rw [Interpreter.increment_zero]
  exact h

theorem covers_moveHead_zero (b : Block) : Covers (moveHead 0 b) b := by
  intro s t result h
  rcases hm : s.moveHead 0 with ⟨e | ⟨⟩, s'⟩
  · exact ⟨_, _, .moveHead_error hm, asFar_of_moveHead_error hm h.written_prefix⟩
  · obtain rfl := Interpreter.moveHead_zero hm
    exact ⟨_, _, .moveHead hm h, .refl _ _⟩

theorem covers_coalesced (b : Block) : Covers b b.coalesced := by
  induction b with
  | done => exact .refl _
  | increment amount next ih => exact (ih.increment amount).trans (covers_addIncrement amount _)
  | moveHead offset next ih => exact (ih.moveHead offset).trans (covers_addMove offset _)
  | input next ih => exact ih.input
  | output next ih => exact ih.output
  | loop body next ihb ihn => exact ihb.loop ihn

theorem covers_effective (b : Block) : Covers b b.effective := by
  induction b with
  | done => exact .refl _
  | increment amount next ih =>
    rw [Block.effective]
    split
    next h0 => rw [h0]; exact (covers_increment_zero next).trans ih
    next => exact ih.increment amount
  | moveHead offset next ih =>
    rw [Block.effective]
    split
    next h0 => rw [h0]; exact (covers_moveHead_zero next).trans ih
    next => exact ih.moveHead offset
  | input next ih => exact ih.input
  | output next ih => exact ih.output
  | loop body next ihb ihn => exact ihb.loop ihn

theorem Completes.of_optimised (h : b.optimised.Completes s result t) :
    ∃ result' t', b.Completes s result' t' ∧ AsFar result t result' t' := by
  have hcovers := (covers_coalesced b).trans (covers_effective b.coalesced)
  cases h with
  | flushed h hf =>
    obtain ⟨r, u, hu, ⟨rfl, rfl⟩ | ⟨⟨e, rfl, he⟩, hw⟩⟩ := hcovers _ _ _ h
    · exact ⟨_, _, .flushed hu hf, .refl _ _⟩
    · exact ⟨_, u, .failed hu, .inr ⟨⟨e, rfl, he⟩, by rw [written_flush hf]; exact hw⟩⟩
  | failed h =>
    obtain ⟨r, u, hu, ⟨rfl, rfl⟩ | ⟨⟨e, rfl, he⟩, hw⟩⟩ := hcovers _ _ _ h
    · exact ⟨_, _, .failed hu, .refl _ _⟩
    · exact ⟨_, u, .failed hu, .inr ⟨⟨e, rfl, he⟩, hw⟩⟩

end Block

/-! ## Sources -/

section Sources
variable {source : Source} {s t : Interpreter} {result : Except Error Unit}

theorem ends_instructions (h : Ends source.unmerged s result t) (hr : ¬ HeadRefused result) :
    Ends source.instructions s result t := by
  obtain ⟨b, hraw, hopt⟩ := source.exists_block
  rw [hraw, ends_flatten_iff] at h
  rw [hopt, ends_flatten_iff]
  exact h.optimised hr

theorem ends_unmerged (h : Ends source.instructions s result t) :
    ∃ result' t', Ends source.unmerged s result' t' ∧ Block.AsFar result t result' t' := by
  obtain ⟨b, hraw, hopt⟩ := source.exists_block
  rw [hopt, ends_flatten_iff] at h
  simp only [hraw, ends_flatten_iff]
  exact h.of_optimised

/-- How either run of a source can end where no position is beyond the greatest. -/
theorem source_result_cases (hs : s.head < s.tape.size) (hsize : s.tape.size + source.text.length ≤ 2 ^ 63)
    (h : Ends source.unmerged s result t ∨ Ends source.instructions s result t) :
    result = .ok () ∨ (∃ io, result = .error (.io io)) ∨
      result = .error .tapeUnderflow ∨ result = .error .tapeOverflow := by
  rcases h with h | h
  · refine h.result_cases source.unmerged_balanced hs fun offset hmem => ?_
    have := source.moveHead_le_unmerged hmem
    rw [greatestPosition]
    omega
  · refine h.result_cases source.instructions_balanced hs fun offset hmem => ?_
    have := source.moveHead_le hmem
    rw [greatestPosition]
    omega

end Sources

theorem not_headRefused {result : Except Error Unit} (h : result = .ok () ∨ ∃ io, result = .error (.io io)) :
    ¬ HeadRefused result := by
  rintro ⟨e, he, hkind⟩
  rcases h with rfl | ⟨io, rfl⟩
  · cases he
  · cases he
    simp at hkind

theorem instructions_preserve (source : Source) (s : Interpreter) (hs : s.head < s.tape.size)
    (hsize : s.tape.size + source.text.length ≤ 2 ^ 63) :
    (∀ result t, (result = .ok () ∨ ∃ io, result = .error (.io io)) →
        Ends source.unmerged s result t → Ends source.instructions s result t) ∧
      (RunsForever source.unmerged s → RunsForever source.instructions s) ∧
      (∀ e t, e = .tapeUnderflow ∨ e = .tapeOverflow → Ends source.instructions s (.error e) t →
        ∃ e' t', (e' = .tapeUnderflow ∨ e' = .tapeOverflow) ∧ Ends source.unmerged s (.error e') t' ∧
          t'.written <+: t.written) ∧
      (RunsForever source.instructions s → RunsForever source.unmerged s ∨
        ∃ e t, (e = .tapeUnderflow ∨ e = .tapeOverflow) ∧ Ends source.unmerged s (.error e) t) ∧
      ∀ result t, Ends source.unmerged s result t ∨ Ends source.instructions s result t →
        result = .ok () ∨ (∃ io, result = .error (.io io)) ∨
          result = .error .tapeUnderflow ∨ result = .error .tapeOverflow := by
  refine ⟨fun result t hr h => ends_instructions h (not_headRefused hr), fun hforever => ?_,
    fun e t he h => ?_, fun hforever => ?_, fun result t h => source_result_cases hs hsize h⟩
  · rcases Interpreter.ends_or_runsForever source.instructions s with ⟨result, t, h⟩ | h
    · obtain ⟨result', t', h', -⟩ := ends_unmerged h
      exact absurd hforever h'.not_runsForever
    · exact h
  · obtain ⟨result', t', h', ⟨rfl, rfl⟩ | ⟨⟨e', rfl, rfl | hkind⟩, hw⟩⟩ := ends_unmerged h
    · exact ⟨e, t', he, h', List.prefix_refl _⟩
    · rcases source_result_cases hs hsize (.inl h') with hc | ⟨io, hc⟩ | hc | hc <;> cases hc
    · exact ⟨e', t', hkind, h', hw⟩
  · rcases Interpreter.ends_or_runsForever source.unmerged s with ⟨result, t, h⟩ | h
    · have hfails (hr : ¬ HeadRefused result) : False := (ends_instructions h hr).not_runsForever hforever
      rcases source_result_cases hs hsize (.inl h) with hc | hc | hc | hc
      · exact (hfails (not_headRefused (.inl hc))).elim
      · exact (hfails (not_headRefused (.inr hc))).elim
      · exact .inr ⟨_, t, .inl rfl, hc ▸ h⟩
      · exact .inr ⟨_, t, .inr rfl, hc ▸ h⟩
    · exact .inl h

theorem instructions_preserve_cancelled :
    ∃ (source : Source) (s t : Interpreter), source.text = "+>><.<" ∧ s.head < s.tape.size ∧
      s.tape.size + source.text.length ≤ 2 ^ 63 ∧ Ends source.unmerged s (.ok ()) t ∧
      Ends source.instructions s (.ok ()) t := by
  let source : Source := ⟨"+>><.<", by decide⟩
  let s : Interpreter := .create 3 none (some .unbounded)
  have hs : s.head < s.tape.size := by decide
  have hsize : s.tape.size + source.text.length ≤ 2 ^ 63 := by decide
  have e : source.unmerged =
      [.increment 1, .moveHead 1, .moveHead 1, .moveHead (-1), .output, .moveHead (-1)] := by decide
  obtain ⟨t, ht⟩ : ∃ t, Ends source.unmerged s (.ok ()) t := by
    rw [e]
    exact ⟨_, 10, rfl⟩
  exact ⟨source, s, t, rfl, hs, hsize, ht, (instructions_preserve source s hs hsize).1 _ _ (.inl rfl) ht⟩

end Brainfuck
