import Brainfuck.Build
import Brainfuck.Proofs.Coalescing
import Brainfuck.Proofs.Code
import Brainfuck.Proofs.Lowering
import Brainfuck.Proofs.Runs
/-!
# Three bracket checks, one answer

The texts, the linear code and the loop partners each keep a stack of what is open. `heightAfter` is the height
of all three. `bracket_checks_agree`: they accept the same programs and refuse the others alike, so what has
been read from a text is never found inconsistent later.
-/

namespace Brainfuck

open Interpreter (Ends)

/-! ## Balance by height -/

theorem hasStrayFinish_iff (program : List Instruction) : HasStrayFinish program ↔ heightAfter program 0 = none := by
  simp [heightAfter_eq_none_iff, HasStrayFinish]

theorem balanced_iff_height (program : List Instruction) : Balanced program ↔ heightAfter program 0 = some 0 := by
  rw [Balanced, hasStrayFinish_iff]
  cases h : heightAfter program 0 with
  | none => simp
  | some behind =>
    have := heightAfter_eq_some h
    simp only [reduceCtorEq, not_false_eq_true, true_and, Option.some.injEq]
    omega

/-! ## Merging and dropping keep the height -/

theorem heightAfter_mergeCons (i : Instruction) (program : List Instruction) (height : Nat) :
    heightAfter (mergeCons i program) height = heightAfter (i :: program) height := by
  rcases program with _ | ⟨j, rest⟩
  · rfl
  · cases i <;> cases j <;> rfl

theorem heightAfter_cons_congr {p q : List Instruction} (h : ∀ height, heightAfter p height = heightAfter q height)
    (i : Instruction) (height : Nat) : heightAfter (i :: p) height = heightAfter (i :: q) height := by
  cases i with
  | finishLoop => cases height with
    | zero => rfl
    | succ height => exact h height
  | startLoop => exact h (height + 1)
  | increment | moveHead | input | output => exact h height

theorem heightAfter_coalesce (program : List Instruction) (height : Nat) :
    heightAfter (coalesce program) height = heightAfter program height := by
  induction program generalizing height with
  | nil => rfl
  | cons i rest ih => rw [coalesce, heightAfter_mergeCons, heightAfter_cons_congr ih]

theorem nesting_of_not_isEffective {i : Instruction} (h : i.isEffective = false) : i.nesting = 0 := by
  cases i <;> first | rfl | cases h

theorem heightAfter_filter (program : List Instruction) (height : Nat) :
    heightAfter (program.filter Instruction.isEffective) height = heightAfter program height := by
  induction program generalizing height with
  | nil => rfl
  | cons i rest ih =>
    rw [List.filter_cons]
    split
    next => exact heightAfter_cons_congr ih i height
    next he => rw [ih, heightAfter_other rest height (nesting_of_not_isEffective (by simpa using he))]

/-! ## The three stacks -/

/-- What a check of this height answers, with its own words for loops that are left open. -/
def verdict (leftover : Inconsistency) : Option Nat → Except Inconsistency Unit
  | none => .error .unmatchedFinish
  | some 0 => .ok ()
  | some (_ + 1) => .error leftover

theorem openBrackets_height (text : List Char) (position : Nat) (opened : List Nat) :
    (openBrackets text position opened).toOption.map List.length =
      heightAfter (text.filterMap Instruction.ofChar?) opened.length := by
  induction text generalizing position opened with
  | nil => rfl
  | cons c rest ih =>
    simp only [openBrackets]
    split
    next hc =>
      subst hc
      exact ih _ _
    next hopen =>
      split
      next hc =>
        subst hc
        cases opened with
        | nil => rfl
        | cons _ outer => exact ih _ _
      next hclose =>
        rw [ih, List.filterMap_cons]
        split
        next => rfl
        next i hi => rw [heightAfter_other _ _ (nesting_ofChar hi hopen hclose)]

theorem partnersFrom_verdict (program : List Instruction) (n : Nat) (opened : List Nat) (table : Array Nat) :
    (partnersFrom program n opened table).map (fun _ => ()) =
      verdict .unmatchedStart (heightAfter program opened.length) := by
  induction program generalizing n opened table with
  | nil => cases opened <;> rfl
  | cons i rest ih =>
    cases i with
    | startLoop => exact ih _ _ _
    | finishLoop =>
      cases opened with
      | nil => rfl
      | cons start outer => exact ih _ _ _
    | increment | moveHead | input | output => exact ih _ _ _

theorem lowering_verdict (program : List Instruction) (s : Lowering) :
    (Lowering.run program s).1 = verdict .loopsLeftOpen (heightAfter program s.openLoops.size) := by
  induction program generalizing s with
  | nil =>
    rw [Lowering.run, heightAfter, Array.isEmpty]
    cases s.openLoops.size <;> rfl
  | cons i rest ih =>
    cases i with
    | startLoop =>
      rw [Lowering.run]
      exact (ih _).trans (by simp [Lowering.announce, Lowering.openLoop, heightAfter])
    | finishLoop =>
      cases hf : s.openLoops.back? with
      | none =>
        have hempty : s.openLoops = #[] := by simpa using hf
        simp [Lowering.run, Lowering.step, Lowering.closeLoop, Lowering.announce, hempty, heightAfter, verdict]
      | some frame =>
        obtain ⟨outer, houter⟩ := Array.back?_eq_some_iff.1 hf
        rw [Lowering.run, Lowering.step_finishLoop hf]
        exact (ih _).trans (by simp [Lowering.closed, houter, heightAfter])
    | increment | moveHead | input | output =>
      rw [Lowering.run, heightAfter_other _ _ rfl]
      exact ih _

/-! ## What the checks answer -/

/-- The answer of a check of a program's loops: it accepts the balanced programs, and tells a loop end without
a start from loops that are left open. -/
structure Diagnoses {α : Type} (program : List Instruction) (leftover : Inconsistency)
    (answer : Except Error α) : Prop where
  accepted : (∃ a, answer = .ok a) ↔ Balanced program
  stray : answer = .error (.inconsistent .unmatchedFinish) ↔ HasStrayFinish program
  leftOpen : answer = .error (.inconsistent leftover) ↔ ¬ HasStrayFinish program ∧ 0 < depthAfter program

theorem diagnoses_of_verdict {α : Type} {program : List Instruction} {leftover : Inconsistency}
    {answer : Except Error α} (hne : leftover ≠ .unmatchedFinish)
    (h : answer.map (fun _ => ()) = (verdict leftover (heightAfter program 0)).mapError .inconsistent) :
    Diagnoses program leftover answer := by
  cases hheight : heightAfter program 0 with
  | none =>
    rw [hheight] at h
    have hstray := (hasStrayFinish_iff program).2 hheight
    cases answer with
    | ok a => cases h
    | error e =>
      cases h
      exact ⟨by simp [Balanced, hstray], by simp [hstray], by simp [hstray, hne.symm]⟩
  | some behind =>
    rw [hheight] at h
    have hstray : ¬ HasStrayFinish program := by simp [hasStrayFinish_iff, hheight]
    have hdepth := heightAfter_eq_some hheight
    cases behind with
    | zero =>
      cases answer with
      | ok a => exact ⟨by simp [Balanced, hstray]; omega, by simp [hstray], by simp [hstray]; omega⟩
      | error e => cases h
    | succ behind =>
      cases answer with
      | ok a => cases h
      | error e =>
        cases h
        exact ⟨by simp [Balanced, hstray]; omega, by simp [hstray, hne], by simp [hstray]; omega⟩

theorem diagnoses_loopPartners (program : List Instruction) :
    Diagnoses program .unmatchedStart ((loopPartners program).mapError .inconsistent) := by
  refine diagnoses_of_verdict (by decide) ?_
  have h := partnersFrom_verdict program 0 [] (Array.replicate program.length 0)
  rw [List.length_nil] at h
  rw [← h, loopPartners]
  cases partnersFrom program 0 [] (Array.replicate program.length 0) <;> rfl

theorem diagnoses_lower {tapeLength : Nat} (hN : 0 < tapeLength) (program : List Instruction) :
    Diagnoses program .loopsLeftOpen (lower tapeLength program).result := by
  refine diagnoses_of_verdict (by decide) ?_
  have h := lowering_verdict program (.start tapeLength)
  rw [show (Lowering.start tapeLength).openLoops.size = 0 from rfl] at h
  rw [← h, lower, if_neg (by omega)]
  rcases Lowering.run program (.start tapeLength) with ⟨e | ⟨⟩, s⟩ <;> rfl

theorem Diagnoses.map {α β : Type} {program : List Instruction} {leftover : Inconsistency}
    {answer : Except Error α} (h : Diagnoses program leftover answer) (f : α → β) :
    Diagnoses program leftover (answer.map f) := by
  obtain ⟨haccepted, hstray, hleft⟩ := h
  cases answer <;>
    exact ⟨by simpa [Except.map] using haccepted, by simpa [Except.map] using hstray,
      by simpa [Except.map] using hleft⟩

theorem diagnoses_ofProgram {tapeLength : Nat} (hN : 0 < tapeLength) (program : List Instruction)
    (target : Target) : Diagnoses program .loopsLeftOpen (Code.ofProgram target tapeLength program).result := by
  rw [Code.ofProgram_result_eq]
  exact (diagnoses_lower hN program).map _

theorem lower_zero (program : List Instruction) : (lower 0 program).result = .error (.invalidTapeLength 0) := rfl

/-! ## Runs -/

/-- Once the loops of a program have been paired, no run of it finds them inconsistent. -/
theorem not_inconsistent_of_balanced {program : List Instruction} {s t : Interpreter} {result : Except Error Unit}
    (hb : Balanced program) (h : Ends program s result t) (e : Inconsistency) :
    result ≠ .error (.inconsistent e) := by
  rintro rfl
  obtain ⟨partners, hp⟩ := exists_loopPartners hb
  obtain ⟨n, hn⟩ := (Interpreter.ends_iff hp).1 h
  obtain ⟨k, pc, u, -, hlast⟩ := Execution.last_step hn
  rcases Interpreter.ended_cases hlast with ⟨-, hf⟩ | ⟨e', he, ⟨o, -, hm, -⟩ | ⟨-, hr⟩ | ⟨-, hw⟩⟩
  · obtain ⟨io, hio⟩ := Interpreter.io_of_flush hf
    cases hio
  · cases he
    rcases Interpreter.movedHead_error hm with ⟨he, -⟩ | ⟨he, -⟩ | ⟨he, -⟩ <;> cases he
  · cases he
    obtain ⟨io, hio⟩ := Interpreter.io_of_readCell hr
    cases hio
  · cases he
    obtain ⟨io, hio⟩ := Interpreter.io_of_writeCell hw
    cases hio

/-- The run of a program that is not balanced is over before it has begun. -/
theorem run_of_not_balanced {program : List Instruction} (hb : ¬ Balanced program) (fuel : Nat) (s : Interpreter) :
    ∃ e, loopPartners program = .error e ∧
      Interpreter.run program fuel s = some (.error (.inconsistent e), s) := by
  cases h : loopPartners program with
  | ok partners => exact absurd ((diagnoses_loopPartners program).accepted.1 ⟨partners, by rw [h]; rfl⟩) hb
  | error e => exact ⟨e, rfl, by rw [Interpreter.run, h]⟩

/-! ## Texts -/

/-- A text that is not empty is a source just when its instructions are balanced. -/
theorem ofText_iff_balanced {text : String} (h : text ≠ "") :
    (∃ source, Source.ofText text = .ok source) ↔ Balanced (instructionsOf text.toList) := by
  have hheight := openBrackets_height text.toList 1 []
  rw [balanced_iff_height, instructionsOf_eq, heightAfter_filter, heightAfter_coalesce, ← List.length_nil, ← hheight]
  have hvalid : SourceError.ofText text = none ↔ openBrackets text.toList 1 [] = .ok [] := by
    have hempty : text.isEmpty = false := by simpa using h
    rw [SourceError.ofText, hempty]
    rcases openBrackets text.toList 1 [] with position | _ | ⟨position, opened⟩ <;> simp
  rw [Source.exists_ofText_iff, hvalid]
  rcases openBrackets text.toList 1 [] with position | opened <;> simp [Except.toOption]

section Sources
variable {text : String} {source : Source} (options : Options) (h : Source.ofText text = .ok source)
include h

theorem exists_codeOf (hN : 0 < options.tapeLength) : ∃ code, (options.codeOf text).result = .ok code := by
  rw [Options.codeOf, Code.ofText_of_ok h]
  exact (diagnoses_ofProgram hN _ _).accepted.2 source.instructions_balanced

theorem codeOf_without_tape (hN : options.tapeLength = 0) :
    (options.codeOf text).result = .error (.invalidTapeLength 0) := by
  rw [Options.codeOf, Code.ofText_of_ok h, hN, Code.ofProgram_result_eq, lower_zero]
  rfl

end Sources

theorem codeOf_not_inconsistent (text : String) (options : Options) (e : Inconsistency) :
    (options.codeOf text).result ≠ .error (.inconsistent e) := by
  intro hcode
  cases h : Source.ofText text with
  | error e' =>
    rw [Options.codeOf, Code.ofText_of_error h] at hcode
    cases hcode
  | ok source =>
    rcases Nat.eq_zero_or_pos options.tapeLength with hN | hN
    · rw [codeOf_without_tape options h hN] at hcode
      cases hcode
    · obtain ⟨code, hok⟩ := exists_codeOf options h hN
      rw [hok] at hcode
      cases hcode

/-! ## All checks together -/

theorem bracket_checks_agree :
    (∀ (program : List Instruction) (tapeLength : Nat), 0 < tapeLength →
      Diagnoses program .loopsLeftOpen (lower tapeLength program).result ∧
      (∀ target, Diagnoses program .loopsLeftOpen (Code.ofProgram target tapeLength program).result) ∧
      Diagnoses program .unmatchedStart ((loopPartners program).mapError .inconsistent)) ∧
    (∀ (program : List Instruction) (target : Target),
      (lower 0 program).result = .error (.invalidTapeLength 0) ∧
      (Code.ofProgram target 0 program).result = .error (.invalidTapeLength 0)) ∧
    (∀ (program : List Instruction) (fuel : Nat) (s : Interpreter),
      (∀ e, loopPartners program = .error e →
        Interpreter.run program fuel s = some (.error (.inconsistent e), s)) ∧
      (Balanced program → ∀ e t, Interpreter.run program fuel s ≠ some (.error (.inconsistent e), t))) ∧
    (Inconsistency.unmatchedFinish.message = "loop end without a matching loop start" ∧
      Inconsistency.loopsLeftOpen.message = "loop stack not empty at end of program" ∧
      Inconsistency.unmatchedStart.message = "loop start without a matching loop end") ∧
    ∀ (text : String) (options : Options),
      (text ≠ "" → ((∃ source, Source.ofText text = .ok source) ↔ Balanced (instructionsOf text.toList))) ∧
      (∀ source, Source.ofText text = .ok source →
        Balanced source.instructions ∧
        (0 < options.tapeLength → ∃ code, (options.codeOf text).result = .ok code) ∧
        (options.tapeLength = 0 → (options.codeOf text).result = .error (.invalidTapeLength 0)) ∧
        ∀ fuel s e t, Interpreter.run source.instructions fuel s ≠ some (.error (.inconsistent e), t)) ∧
      (∀ e, Source.ofText text = .error e → (options.codeOf text).result = .error (.source e)) ∧
      ∀ e, (options.codeOf text).result ≠ .error (.inconsistent e) := by
  refine ⟨fun program tapeLength hN => ?_, fun program target => ?_, fun program fuel s => ?_,
    ⟨rfl, rfl, rfl⟩, fun text options => ?_⟩
  · exact ⟨diagnoses_lower hN program, diagnoses_ofProgram hN program, diagnoses_loopPartners program⟩
  · refine ⟨lower_zero program, ?_⟩
    rw [Code.ofProgram_result_eq, lower_zero]
    rfl
  · refine ⟨fun e h => by rw [Interpreter.run, h], fun hb e t hrun => ?_⟩
    exact not_inconsistent_of_balanced hb ⟨fuel, hrun⟩ e rfl
  · refine ⟨ofText_iff_balanced, fun source h => ?_, fun e h => ?_, codeOf_not_inconsistent text options⟩
    · refine ⟨source.instructions_balanced, exists_codeOf options h, codeOf_without_tape options h, ?_⟩
      intro fuel s e t hrun
      exact not_inconsistent_of_balanced source.instructions_balanced ⟨fuel, hrun⟩ e rfl
    · rw [Options.codeOf, Code.ofText_of_error h]

theorem bracket_checks_agree_cancelled :
    (0 < 3 ∧ (lower 3 [.finishLoop, .startLoop]).result = .error (.inconsistent .unmatchedFinish) ∧
      (lower 3 [.startLoop, .input]).result = .error (.inconsistent .loopsLeftOpen)) ∧
    (∀ fuel s, Interpreter.run [.startLoop, .input] fuel s = some (.error (.inconsistent .unmatchedStart), s)) ∧
    ∃ (source : Source) (options : Options), "[+-[]x]" ≠ "" ∧ Source.ofText "[+-[]x]" = .ok source ∧
      Balanced source.instructions ∧ 0 < options.tapeLength ∧
      (∃ code, (options.codeOf "[+-[]x]").result = .ok code) ∧
      ({ options with tapeLength := 0 }.codeOf "[+-[]x]").result = .error (.invalidTapeLength 0) ∧
      Source.ofText "[]]" = .error (.unexpectedClosing 3) ∧
      (options.codeOf "[]]").result = .error (.source (.unexpectedClosing 3)) := by
  obtain ⟨hprograms, -, hruns, -, htexts⟩ := bracket_checks_agree
  let source : Source := ⟨"[+-[]x]", by decide⟩
  let options : Options := .standard ⟨[]⟩
  have hsource : Source.ofText "[+-[]x]" = .ok source := source.ofText_text
  have hstray : Source.ofText "[]]" = .error (.unexpectedClosing 3) := rfl
  refine ⟨⟨by decide, ?_, ?_⟩, fun fuel s => ?_, source, options, by decide, hsource, ?_, by decide, ?_, ?_, hstray, ?_⟩
  · exact (hprograms _ 3 (by decide)).1.stray.2 ⟨1, by decide⟩
  · exact (hprograms _ 3 (by decide)).1.leftOpen.2 ⟨by rw [hasStrayFinish_iff]; decide, by decide⟩
  · exact (hruns _ fuel s).1 _ (by decide)
  · exact ((htexts _ options).2.1 source hsource).1
  · exact ((htexts _ options).2.1 source hsource).2.1 (by decide)
  · exact ((htexts _ { options with tapeLength := 0 }).2.1 source hsource).2.2.1 rfl
  · exact (htexts _ options).2.2.1 _ hstray

end Brainfuck
