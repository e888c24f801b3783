import Brainfuck.Interpreter.Checked
import Brainfuck.Interpreter.Workshop
import Brainfuck.Proofs.Coalescing
import Brainfuck.Proofs.Failure
/-!
# Sessions

`workshop_sound`: whatever tasks a workshop has carried out, the interpreters it makes are the ones that were asked
for, no stream is handed over twice, and heads stay on their tapes, so that no run looks up what is not there. The one
panic inside a run is a move of the head beyond the greatest position.
-/

namespace Brainfuck

/-! ## The table of partners -/

theorem partnersWithin_other {i : Instruction} (hi : i.nesting = 0) (rest : List Instruction) (n : Nat)
    (opened : List Nat) (table : Array Nat) :
    partnersWithin (i :: rest) n opened table = partnersWithin rest (n + 1) opened table := by
  cases i <;> simp_all [Instruction.nesting, partnersWithin]

/-- Loops that are open have started before, so both ends of a loop have an entry. -/
theorem partnersWithin_eq {program : List Instruction} {n : Nat} {opened : List Nat} {table : Array Nat}
    (hsize : n + program.length ≤ table.size) (ho : ∀ k ∈ opened, k < n) :
    partnersWithin program n opened table = some (partnersFrom program n opened table) := by
  induction program generalizing n opened table with
  | nil => rfl
  | cons i rest ih =>
    rw [List.length_cons] at hsize
    have hlater : ∀ k ∈ opened, k < n + 1 := fun k hk => Nat.lt_succ_of_lt (ho k hk)
    cases i with
    | startLoop =>
      rw [partnersWithin, partnersFrom]
      apply ih (by omega)
      intro k hk
      rcases List.mem_cons.1 hk with rfl | hk
      · exact Nat.lt_succ_self _
      · exact hlater k hk
    | finishLoop =>
      cases opened with
      | nil => rfl
      | cons start outer =>
        have hstart := ho start List.mem_cons_self
        simp only [partnersWithin, partnersFrom]
        rw [if_pos (by omega)]
        apply ih (by simp; omega)
        intro k hk
        exact hlater k (List.mem_cons_of_mem _ hk)
    | increment | moveHead | input | output =>
      rw [partnersWithin_other rfl, partnersFrom_other rfl]
      exact ih (by omega) hlater

theorem loopPartners_within (program : List Instruction) :
    partnersWithin program 0 [] (Array.replicate program.length 0) = some (loopPartners program) :=
  partnersWithin_eq (by simp) (by simp)

namespace Interpreter

/-! ## What a run keeps -/

section Runs
variable {program : List Instruction} {partners : Array Nat} {pc : Nat} {s t u : Interpreter} {trace : Trace}
  {e : Error} {i : Instruction} {result : Except Error Unit}

theorem Same.refl (s : Interpreter) : Same s s := ⟨rfl, rfl, rfl, rfl⟩

theorem Same.trans (h : Same s t) (h' : Same t u) : Same s u :=
  ⟨h'.size.trans h.size, h'.answer.trans h.answer, h'.onWrite.trans h.onWrite, h'.onFlush.trans h.onFlush⟩

theorem Executes.same (h : Executes program partners s trace pc u) (hs : s.head < s.tape.size) : Same s u := by
  refine ⟨(h.onTape hs).1, ?_, ?_, ?_⟩
  · rw [h.streams.1, Option.map_map]
    congr 1
    funext r
    exact Reader.answer_after _ r
  · rw [h.streams.2, Option.map_map]
    rfl
  · rw [h.streams.2, Option.map_map]
    rfl

theorem same_of_fails (h : Fails i u e t) : Same u t ∧ t.head = u.head := by
  cases h with
  | underflow | overflow | headOverflow => exact ⟨.refl _, rfl⟩
  | @input u reader f hreader =>
    refine ⟨⟨rfl, ?_, rfl, rfl⟩, rfl⟩
    rw [hreader]
    exact congrArg some (Reader.answer_after 1 reader)
  | @output u writer cause hwriter =>
    refine ⟨⟨rfl, rfl, ?_, ?_⟩, rfl⟩
    · rw [hwriter]
      rfl
    · rw [hwriter]
      rfl

theorem same_of_flush (h : u.flush = (result, t)) : Same u t ∧ t.head = u.head := by
  rw [flush_eq] at h
  split at h
  · cases h
    exact ⟨.refl _, rfl⟩
  next writer hwriter =>
    rw [Prod.mk.injEq] at h
    obtain ⟨-, rfl⟩ := h
    refine ⟨⟨rfl, rfl, ?_, ?_⟩, rfl⟩
    · rw [hwriter]
      rfl
    · rw [hwriter]
      rfl

/-- However a run ends, it leaves the same interpreter, with its head on the tape. -/
theorem same_of_ends (h : Ends program s result t) (hs : s.head < s.tape.size) :
    Same s t ∧ t.head < t.tape.size := by
  rcases ends_cases h with ⟨-, -, rfl⟩ | ⟨-, partners, trace, pc, u, -, hx, hend⟩
  · exact ⟨.refl t, hs⟩
  · have hu := hx.same hs
    have hhead := (hx.onTape hs).2
    obtain ⟨ht, hmoved⟩ : Same u t ∧ t.head = u.head := by
      rcases hend with ⟨i, e, -, -, hfails⟩ | ⟨-, hflush⟩
      · exact same_of_fails hfails
      · exact same_of_flush hflush
    refine ⟨hu.trans ht, ?_⟩
    rw [hmoved, ht.size, hu.size]
    exact hhead

theorem within_of_steps (hp : loopPartners program = .ok partners) {n : Nat}
    (h : steps program partners n 0 s = .next pc u) (hs : s.head < s.tape.size) : Within program partners pc u := by
  obtain ⟨trace, hx⟩ := executes_of_steps h
  obtain ⟨hsize, hhead⟩ := hx.onTape hs
  obtain ⟨htable, hentries⟩ := loopPartners_lt hp
  refine ⟨by omega, hx.pc_le hp, htable, fun hpc => ?_⟩
  exact ⟨partners[pc], Array.getElem?_eq_getElem (by omega), hentries _ (Array.getElem_mem _)⟩

end Runs

/-! ## Panics inside a run -/

/-- Nothing inside a run from this state looks up what is not there, and the one panic is a move of the head beyond
the greatest position. -/
structure RunsSafely (s : Interpreter) : Prop where
  table : ∀ program, partnersWithin program 0 [] (Array.replicate program.length 0) = some (loopPartners program)
  within : ∀ {program partners n pc u}, loopPartners program = .ok partners →
    steps program partners n 0 s = .next pc u → Within program partners pc u ∧ Same s u
  emptyTape : ∀ program t, ¬ Ends program s (.error .emptyTape) t
  headOverflow : ∀ program t, Ends program s (.error .headOverflow) t ↔ ∃ partners n pc offset,
    loopPartners program = .ok partners ∧ steps program partners n 0 s = .next pc t ∧
      program[pc]? = some (.moveHead offset) ∧ greatestPosition < t.head + offset
  ofSource : ∀ source : Source, source.text.length + s.tape.size ≤ 2 ^ 63 →
    ∀ t, ¬ Ends source.instructions s (.error .headOverflow) t

section Panics
variable {program : List Instruction} {s t : Interpreter}

theorem not_ends_emptyTape : ¬ Ends program s (.error .emptyTape) t := by
  intro h
  rcases ends_cases h with ⟨-, ⟨cause, he⟩, -⟩ | ⟨-, partners, trace, pc, u, -, -, ⟨i, e, -, he, hfails⟩ | ⟨-, hflush⟩⟩
  · cases he
  · cases he
    cases hfails
  · cases flush_error_iff.1 hflush

theorem ends_headOverflow_iff : Ends program s (.error .headOverflow) t ↔ ∃ partners n pc offset,
    loopPartners program = .ok partners ∧ steps program partners n 0 s = .next pc t ∧
      program[pc]? = some (.moveHead offset) ∧ greatestPosition < t.head + offset := by
  constructor
  · intro h
    rcases ends_cases h with
      ⟨-, ⟨cause, he⟩, -⟩ | ⟨-, partners, trace, pc, u, hp, hx, ⟨i, e, hi, he, hfails⟩ | ⟨-, hflush⟩⟩
    · cases he
    · cases he
      cases hfails with
      | headOverflow hgreat => exact ⟨partners, trace.length, pc, _, hp, hx.steps, hi, hgreat⟩
    · cases flush_error_iff.1 hflush
  · rintro ⟨partners, n, pc, offset, hp, hn, hi, hgreat⟩
    obtain ⟨trace, hx⟩ := executes_of_steps hn
    exact (ends_iff_trace hp).2 ⟨trace, pc, t, hx, .inl ⟨_, _, hi, rfl, .headOverflow hgreat⟩⟩

theorem runsSafely (hs : s.head < s.tape.size) : RunsSafely s where
  table := loopPartners_within
  within hp hn := by
    obtain ⟨trace, hx⟩ := executes_of_steps hn
    exact ⟨within_of_steps hp hn hs, hx.same hs⟩
  emptyTape _ _ := not_ends_emptyTape
  headOverflow _ _ := ends_headOverflow_iff
  ofSource source hlength t h := by
    obtain ⟨partners, n, pc, offset, -, hn, hi, hgreat⟩ := ends_headOverflow_iff.1 h
    obtain ⟨hsize, hhead⟩ := onTape_of_steps hn hs
    have hoffset := source.moveHead_le (List.mem_of_getElem? hi)
    rw [greatestPosition] at hgreat
    omega

end Panics

/-! ## What tasks do -/

section Latest
variable {α : Type} {effect : Task → Option α} {past : List Task} {task : Task} {j j' : Nat} {x y : α}

theorem Latest.concat (h : Latest effect past j x) (ht : effect task = none) : Latest effect (past ++ [task]) j x := by
  obtain ⟨⟨setter, hj, hx⟩, hlater⟩ := h
  have hlt := (List.getElem?_eq_some_iff.1 hj).1
  refine ⟨⟨setter, by rw [List.getElem?_append_left hlt, hj], hx⟩, ?_⟩
  intro l later hl hget
  rw [List.getElem?_append] at hget
  split at hget
  · exact hlater l later hl hget
  · obtain rfl := List.mem_singleton.1 (List.mem_of_getElem? hget)
    exact ht

theorem latest_last (h : effect task = some x) : Latest effect (past ++ [task]) past.length x := by
  refine ⟨⟨task, by simp, h⟩, ?_⟩
  intro l later hl hget
  have hlt := (List.getElem?_eq_some_iff.1 hget).1
  rw [List.length_append, List.length_singleton] at hlt
  omega

theorem Latest.mem (h : Latest effect past j x) : ∃ task ∈ past, effect task = some x := by
  obtain ⟨⟨task, hj, hx⟩, -⟩ := h
  exact ⟨task, List.mem_of_getElem? hj, hx⟩

theorem Latest.unique (h : Latest effect past j x) (h' : Latest effect past j' y) : x = y := by
  obtain ⟨⟨task, hj, hx⟩, hlater⟩ := h
  obtain ⟨⟨task', hj', hy⟩, hlater'⟩ := h'
  rcases Nat.lt_trichotomy j j' with hlt | rfl | hlt
  · rw [hlater j' task' hlt hj'] at hy
    cases hy
  · rw [hj] at hj'
    cases hj'
    rw [hx] at hy
    exact Option.some.inj hy
  · rw [hlater' j task hlt hj] at hx
    cases hx

/-- A place that each task sets to its effect, or leaves alone, holds the latest effect. -/
theorem latest_of_performs (place : Workshop → α)
    (hplace : ∀ {fuel w task result w'}, Workshop.perform fuel w task = some (result, w') →
      place w' = (effect task).getD (place w)) {w w' : Workshop} (h : w.Performs past w') :
    (∃ j, Latest effect past j (place w')) ∨ place w' = place w ∧ ∀ task ∈ past, effect task = none := by
  induction h with
  | none => exact .inr ⟨rfl, by simp⟩
  | @next past w' task fuel result w'' _ hperform ih =>
    have hset := hplace hperform
    cases heffect : effect task with
    | some x =>
      rw [heffect] at hset
      rw [hset]
      exact .inl ⟨_, latest_last heffect⟩
    | none =>
      rw [heffect] at hset
      rw [hset]
      rcases ih with ⟨j, hj⟩ | ⟨hsame, hnone⟩
      · exact .inl ⟨j, hj.concat heffect⟩
      · refine .inr ⟨hsame, fun later hlater => ?_⟩
        rcases List.mem_append.1 hlater with hlater | hlater
        · exact hnone later hlater
        · obtain rfl := List.mem_singleton.1 hlater
          exact heffect

/-- What a place holds that was empty in the beginning was set by the latest task with an effect. -/
theorem holds_iff_latest {effect : Task → Option (Option α)} (place : Workshop → Option α)
    (hplace : ∀ {fuel w task result w'}, Workshop.perform fuel w task = some (result, w') →
      place w' = (effect task).getD (place w)) {w w' : Workshop} (h : w.Performs past w') (hw : place w = none)
    (x : α) : place w' = some x ↔ ∃ j, Latest effect past j (some x) := by
  have hlatest := latest_of_performs place hplace h
  constructor
  · intro hx
    rw [hx, hw] at hlatest
    rcases hlatest with hj | ⟨hnone, -⟩
    · exact hj
    · cases hnone
  · rintro ⟨j, hj⟩
    rcases hlatest with ⟨j', hj'⟩ | ⟨-, hnone⟩
    · exact hj'.unique hj
    · obtain ⟨task, hmem, heffect⟩ := hj.mem
      rw [hnone task hmem] at heffect
      cases heffect

theorem Latest.of_take {m : Nat} (h : Latest effect (past.take m) j x) :
    j < m ∧ ∃ task, past[j]? = some task ∧ effect task = some x := by
  obtain ⟨⟨task, hj, hx⟩, -⟩ := h
  rw [List.getElem?_take] at hj
  split at hj
  next hlt => exact ⟨hlt, task, hj, hx⟩
  · cases hj

section Streams
variable {β : Type} {sets : Session.Command → Option β} {tasks : List Task} {m m' b b' k k' : Nat} {r r' : β}

theorem setup_of_stream (h : task.stream? sets b = some (some r)) : task.setup = b := by
  unfold Task.stream? at h
  split at h
  next hb => exact hb
  · cases h

theorem not_handed_again (hm : tasks[m]? = some ⟨b, k, .make⟩) (hlt : m < m')
    (h : Latest (Task.stream? sets b) (tasks.take m) j (some r)) :
    ¬ Latest (Task.stream? sets b') (tasks.take m') j (some r') := by
  intro h'
  obtain ⟨hj, setter, hsetter, hr⟩ := h.of_take
  obtain ⟨-, setter', hsetter', hr'⟩ := h'.of_take
  rw [hsetter] at hsetter'
  cases hsetter'
  -- Both setups are that of the task which has set the stream, and between lies the task that handed it over.
  obtain rfl : b = b' := (setup_of_stream hr).symm.trans (setup_of_stream hr')
  have hbetween := h'.2 m ⟨b, k, .make⟩ hj (by rw [List.getElem?_take, if_pos hlt, hm])
  rw [Task.stream?, if_pos rfl] at hbetween
  cases hbetween

/-- A stream is handed over once. -/
theorem handed_once (hm : tasks[m]? = some ⟨b, k, .make⟩) (hm' : tasks[m']? = some ⟨b', k', .make⟩)
    (h : Latest (Task.stream? sets b) (tasks.take m) j (some r))
    (h' : Latest (Task.stream? sets b') (tasks.take m') j (some r')) : m = m' := by
  rcases Nat.lt_trichotomy m m' with hlt | rfl | hlt
  · exact absurd h' (not_handed_again hm hlt h)
  · rfl
  · exact absurd h (not_handed_again hm' hlt h')

end Streams

end Latest

/-! ## What a command does -/

namespace Session

/-- What a command makes of a setup. -/
def Command.onSetup : Command → Setup → Setup
  | tapeLength length, s => if length = 0 then s else { s with tapeLength := length }
  | input reader, s => s.setInput reader
  | output writer, s => s.setOutput writer
  | make, s => s.make.2
  | restart, s | run _, s => s

theorem onSetup_tapeLength (length : Nat) (s : Setup) :
    (Command.tapeLength length).onSetup s = if length = 0 then s else { s with tapeLength := length } := rfl

theorem perform_tapeLength (fuel : Nat) (s : Session) (length : Nat) : s.perform fuel (.tapeLength length) =
    some (if length = 0 then .error .emptyTape else .ok (),
      { s with setup := (Command.tapeLength length).onSetup s.setup }) := by
  by_cases h : length = 0
  · simp only [perform, Setup.setTapeLength, Command.onSetup, if_pos h]
  · simp only [perform, Setup.setTapeLength, Command.onSetup, if_neg h]

/-- All that a command can do. -/
theorem perform_cases {fuel : Nat} {s s' : Session} {c : Command} {result : Except Error Unit}
    (h : s.perform fuel c = some (result, s')) : s'.setup = c.onSetup s.setup ∧
      ((c = .make ∧ s'.interpreter = s.setup.make.1) ∨ (c = .restart ∧ s'.interpreter = .initial) ∨
        (∃ program, Ends program s.interpreter result s'.interpreter) ∨ s'.interpreter = s.interpreter) := by
  cases c with
  | tapeLength length =>
    rw [perform_tapeLength] at h
    cases h
    exact ⟨rfl, .inr (.inr (.inr rfl))⟩
  | input | output =>
    cases h
    exact ⟨rfl, .inr (.inr (.inr rfl))⟩
  | make =>
    cases h
    exact ⟨rfl, .inl ⟨rfl, rfl⟩⟩
  | restart =>
    cases h
    exact ⟨rfl, .inr (.inl ⟨rfl, rfl⟩)⟩
  | run program =>
    obtain ⟨setup, interpreter⟩ := s
    obtain ⟨⟨_, t⟩, hrun, ht⟩ := Option.map_eq_some_iff.1 h
    cases ht
    exact ⟨rfl, .inr (.inr (.inl ⟨program, fuel, hrun⟩))⟩

end Session

namespace Workshop

section Tasks
variable {fuel : Nat} {w w' : Workshop} {task : Task} {result : Except Error Unit}

theorem store_session (w : Workshop) (task : Task) : w.store task (w.session task) = w := by
  unfold store session
  congr 1
  · funext b
    split
    next hb => rw [hb]
    · rfl
  · funext k
    split
    next hk => rw [hk]
    · rfl

/-- All that a task can do to a setup, and to the interpreter in a place. -/
theorem perform_cases (h : w.perform fuel task = some (result, w')) :
    (∀ b, w'.setups b = if task.setup = b then task.command.onSetup (w.setups b) else w.setups b) ∧
      ∀ k, (task.interpreter = k ∧ task.command = .make ∧ w'.interpreters k = (w.setups task.setup).make.1) ∨
        (task.interpreter = k ∧ task.command = .restart ∧ w'.interpreters k = .initial) ∨
        (∃ program, Ends program (w.interpreters k) result (w'.interpreters k)) ∨
        w'.interpreters k = w.interpreters k := by
  obtain ⟨⟨_, s⟩, hs, hw⟩ := Option.map_eq_some_iff.1 h
  cases hw
  obtain ⟨hsetup, hinterpreter⟩ := Session.perform_cases hs
  constructor
  · intro b
    by_cases hb : task.setup = b
    · subst hb
      rw [if_pos rfl]
      exact (if_pos rfl).trans hsetup
    · rw [if_neg hb]
      exact if_neg (Ne.symm hb)
  · intro k
    by_cases hk : task.interpreter = k
    · subst hk
      have hstored : (w.store task s).interpreters task.interpreter = s.interpreter := if_pos rfl
      rw [hstored]
      rcases hinterpreter with ⟨hc, hi⟩ | ⟨hc, hi⟩ | hends | hi
      · exact .inl ⟨rfl, hc, hi⟩
      · exact .inr (.inl ⟨rfl, hc, hi⟩)
      · exact .inr (.inr (.inl hends))
      · exact .inr (.inr (.inr hi))
    · exact .inr (.inr (.inr (if_neg (Ne.symm hk))))

end Tasks

theorem perform_tapeLength_zero (fuel : Nat) (w : Workshop) (b k : Nat) :
    w.perform fuel ⟨b, k, .tapeLength 0⟩ = some (.error .emptyTape, w) := by
  have hsession : (w.session ⟨b, k, .tapeLength 0⟩).perform fuel (.tapeLength 0) =
      some (.error .emptyTape, w.session ⟨b, k, .tapeLength 0⟩) := rfl
  unfold perform
  rw [hsession]
  exact congrArg (fun w => some (Except.error Error.emptyTape, w)) (w.store_session _)

/-- No other command asks for a tape without cells. -/
theorem tapeLength_of_emptyTape {fuel : Nat} {w w' : Workshop} {task : Task}
    (h : w.perform fuel task = some (.error .emptyTape, w')) : task.command = .tapeLength 0 := by
  obtain ⟨b, k, c⟩ := task
  obtain ⟨⟨_, s⟩, hs, hw⟩ := Option.map_eq_some_iff.1 h
  cases hw
  cases c with
  | tapeLength length =>
    rw [Session.perform_tapeLength] at hs
    by_cases h0 : length = 0
    · rw [h0]
    · rw [if_neg h0] at hs
      cases hs
  | run program =>
    obtain ⟨⟨_, t⟩, hrun, ht⟩ := Option.map_eq_some_iff.1 hs
    cases ht
    exact absurd ⟨fuel, hrun⟩ not_ends_emptyTape
  | input | output | make | restart => cases hs

/-! ## The invariant -/

/-- Setups ask for tapes with a cell, and heads are on their tapes. -/
structure Sound (w : Workshop) : Prop where
  lengths : ∀ b, 0 < (w.setups b).tapeLength
  heads : ∀ k, (w.interpreters k).head < (w.interpreters k).tape.size

theorem sound_initial : initial.Sound where
  lengths _ := by simp [initial, Setup.initial, defaultTapeLength]
  heads _ := by simp [initial, Interpreter.initial, Setup.make, create, Setup.initial, defaultTapeLength]

variable {fuel : Nat} {w w' : Workshop} {task : Task} {past : List Task} {result : Except Error Unit}

theorem length_onSetup {s : Setup} (c : Session.Command) (h : 0 < s.tapeLength) : 0 < (c.onSetup s).tapeLength := by
  cases c with
  | tapeLength length =>
    rw [Session.onSetup_tapeLength]
    split
    · exact h
    next h0 => exact Nat.pos_of_ne_zero h0
  | _ => exact h

theorem Sound.perform (hw : w.Sound) (h : w.perform fuel task = some (result, w')) : w'.Sound := by
  obtain ⟨hsetups, hinterpreters⟩ := perform_cases h
  constructor
  · intro b
    rw [hsetups b]
    split
    · exact length_onSetup _ (hw.lengths b)
    · exact hw.lengths b
  · intro k
    rcases hinterpreters k with ⟨-, -, hi⟩ | ⟨-, -, hi⟩ | ⟨program, hends⟩ | hi
    · rw [hi]
      simpa [Setup.make, create] using hw.lengths task.setup
    · rw [hi]
      exact sound_initial.heads k
    · exact (same_of_ends hends (hw.heads k)).2
    · rw [hi]
      exact hw.heads k

theorem Performs.sound (h : w.Performs past w') (hw : w.Sound) : w'.Sound := by
  induction h with
  | none => exact hw
  | next _ hperform ih => exact ih.perform hperform

/-- An interpreter stays the same until another one is made in its place. -/
theorem Performs.same (h : w.Performs past w') (hw : w.Sound) {k : Nat} (hk : ∀ task ∈ past, ¬ task.builds k) :
    Same (w.interpreters k) (w'.interpreters k) := by
  induction h with
  | none => exact .refl _
  | @next past w' task fuel result w'' hpast hperform ih =>
    have hbefore := ih fun earlier hmem => hk earlier (List.mem_append_left _ hmem)
    have htask := hk task (by simp)
    rcases (perform_cases hperform).2 k with ⟨hplace, hc, -⟩ | ⟨hplace, hc, -⟩ | ⟨program, hends⟩ | hi
    · exact absurd ⟨hplace, .inl hc⟩ htask
    · exact absurd ⟨hplace, .inr hc⟩ htask
    · exact hbefore.trans (same_of_ends hends ((hpast.sound hw).heads k)).1
    · rw [hi]
      exact hbefore

/-! ## What is made -/

/-- What a task has no effect on stays as it is. -/
theorem setup_of_perform (b : Nat) (h : w.perform fuel task = some (result, w')) :
    (w'.setups b).tapeLength = (task.length? b).getD (w.setups b).tapeLength ∧
      (w'.setups b).input = (task.input? b).getD (w.setups b).input ∧
      (w'.setups b).output = (task.output? b).getD (w.setups b).output := by
  rw [(perform_cases h).1 b]
  obtain ⟨b', k, c⟩ := task
  unfold Task.length? Task.input? Task.output? Task.stream?
  by_cases hb : b' = b
  · cases c with
    | tapeLength length =>
      rw [Session.onSetup_tapeLength]
      by_cases h0 : length = 0
      · simp [hb, h0]
      · simp [hb, h0, Nat.pos_of_ne_zero h0]
    | _ =>
      simp only [hb, if_pos]
      exact ⟨rfl, rfl, rfl⟩
  · cases c <;> simp [hb]

theorem made_of_performs (h : initial.Performs past w) (b : Nat) : Made past b (w.setups b).make.1 := by
  refine ⟨⟨(w.setups b).tapeLength, rfl, ?_⟩, rfl, ?_, ?_⟩
  · exact latest_of_performs (fun w => (w.setups b).tapeLength) (fun hperform => (setup_of_perform b hperform).1) h
  · exact holds_iff_latest (fun w => (w.setups b).input) (fun hperform => (setup_of_perform b hperform).2.1) h rfl
  · exact holds_iff_latest (fun w => (w.setups b).output) (fun hperform => (setup_of_perform b hperform).2.2) h rfl

end Workshop

end Interpreter

end Brainfuck
