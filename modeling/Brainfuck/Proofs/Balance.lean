import Brainfuck.Block
import Brainfuck.Instruction.Balance
/-!
# Balanced lists are flattened blocks

`balanced_iff`: counting brackets once decides balance. `balanced_iff_flatten`: the balanced lists are those
that some block flattens to, and `flatten_injective`: that block is the only one. `flatten_start` and
`flatten_finish` find the loop of each loop instruction.
-/

namespace Brainfuck

/-! ## The height of the stack -/

/-- The counts behind all beginnings of a list, one instruction later. -/
theorem depth_take_cons (i : Instruction) (rest : List Instruction) (opened : Int) (h : 0 ≤ opened) :
    (∀ n, 0 ≤ opened + depthAfter ((i :: rest).take n)) ↔
      ∀ n, 0 ≤ opened + i.nesting + depthAfter (rest.take n) := by
  constructor
  · intro hn n
    have := hn (n + 1)
    simp only [List.take_succ_cons, depthAfter] at this
    omega
  · intro hn n
    cases n with
    | zero => simpa [depthAfter] using h
    | succ n =>
      have := hn n
      simp only [List.take_succ_cons, depthAfter]
      omega

/-- How many loops are open behind a list, if each loop end of it finds one open. -/
def heightAfter : List Instruction → Nat → Option Nat
  | [], height => some height
  | i :: rest, height =>
    match i, height with
    | .startLoop, height => heightAfter rest (height + 1)
    | .finishLoop, 0 => none
    | .finishLoop, height + 1 => heightAfter rest height
    | _, height => heightAfter rest height

theorem heightAfter_other {i : Instruction} (rest : List Instruction) (height : Nat) (h : i.nesting = 0) :
    heightAfter (i :: rest) height = heightAfter rest height := by
  cases i <;> simp_all [Instruction.nesting, heightAfter]

theorem heightAfter_eq_none_iff (program : List Instruction) (height : Nat) :
    heightAfter program height = none ↔ ¬ ∀ n, 0 ≤ (height : Int) + depthAfter (program.take n) := by
  induction program generalizing height with
  | nil => simp [heightAfter, depthAfter]
  | cons i rest ih =>
    rw [depth_take_cons i rest height (by omega)]
    cases i with
    | startLoop => simp only [heightAfter, ih, Instruction.nesting, Int.natCast_add, Int.natCast_one]
    | finishLoop =>
      cases height with
      | zero =>
        simp only [heightAfter, true_iff]
        intro hn
        have := hn 0
        simp [Instruction.nesting, depthAfter] at this
      | succ height =>
        have e : ((height + 1 : Nat) : Int) + -1 = height := by omega
        simp only [heightAfter, ih, Instruction.nesting, e]
    | increment | moveHead | input | output =>
      rw [heightAfter_other rest height rfl, ih]
      simp only [Instruction.nesting, Int.add_zero]

theorem heightAfter_eq_some {program : List Instruction} {height behind : Nat}
    (h : heightAfter program height = some behind) : (behind : Int) = height + depthAfter program := by
  induction program generalizing height with
  | nil => cases h; simp [depthAfter]
  | cons i rest ih =>
    cases i with
    | startLoop =>
      have := ih h
      simp only [depthAfter, Instruction.nesting]
      omega
    | finishLoop =>
      cases height with
      | zero => cases h
      | succ height =>
        have := ih h
        simp only [depthAfter, Instruction.nesting]
        omega
    | increment | moveHead | input | output =>
      have := ih h
      simp only [depthAfter, Instruction.nesting]
      omega

/-! ## Balance is decided in one pass -/

/-- Does the list close exactly the loops that are open before it? -/
def closesLoops : List Instruction → Nat → Bool
  | [], opened => opened == 0
  | instruction :: rest, opened =>
    match instruction, opened with
    | .startLoop, opened => closesLoops rest (opened + 1)
    | .finishLoop, 0 => false
    | .finishLoop, opened + 1 => closesLoops rest opened
    | _, opened => closesLoops rest opened

theorem closesLoops_other {i : Instruction} (rest : List Instruction) (opened : Nat) (h : i.nesting = 0) :
    closesLoops (i :: rest) opened = closesLoops rest opened := by
  cases i <;> simp_all [Instruction.nesting, closesLoops]

theorem closesLoops_eq (program : List Instruction) (opened : Nat) :
    closesLoops program opened = (heightAfter program opened == some 0) := by
  induction program generalizing opened with
  | nil => rfl
  | cons i rest ih =>
    cases i with
    | startLoop => exact ih (opened + 1)
    | finishLoop =>
      cases opened with
      | zero => rfl
      | succ opened => exact ih opened
    | increment | moveHead | input | output => exact ih opened

theorem closesLoops_iff (program : List Instruction) (opened : Nat) :
    closesLoops program opened = true ↔
      (∀ n, 0 ≤ (opened : Int) + depthAfter (program.take n)) ∧ (opened : Int) + depthAfter program = 0 := by
  rw [closesLoops_eq, beq_iff_eq]
  cases h : heightAfter program opened with
  | none =>
    have hstray := (heightAfter_eq_none_iff program opened).1 h
    simp [hstray]
  | some behind =>
    have hbeginnings : ∀ n, 0 ≤ (opened : Int) + depthAfter (program.take n) :=
      Classical.byContradiction fun hstray => by
        rw [(heightAfter_eq_none_iff program opened).2 hstray] at h
        cases h
    have hdepth := heightAfter_eq_some h
    simp only [Option.some.injEq, hbeginnings, implies_true, true_and]
    omega

theorem balanced_iff (program : List Instruction) : Balanced program ↔ closesLoops program 0 = true := by
  simp only [closesLoops_iff, Balanced, HasStrayFinish, not_exists, Int.not_lt, Int.natCast_zero, Int.zero_add]

instance (program : List Instruction) : Decidable (Balanced program) :=
  decidable_of_iff _ (balanced_iff program).symm

theorem depthAfter_take_nonneg {program : List Instruction} (h : Balanced program) (n : Nat) :
    0 ≤ depthAfter (program.take n) :=
  Int.not_lt.1 fun hlow => h.1 ⟨n, hlow⟩

/-! ## Flattened blocks are balanced -/

theorem closesLoops_flatten (b : Block) (rest : List Instruction) (opened : Nat) :
    closesLoops (b.flatten ++ rest) opened = closesLoops rest opened := by
  induction b generalizing rest opened with
  | done => rfl
  | increment _ next ih | moveHead _ next ih | input next ih | output next ih =>
    simp only [Block.flatten, List.cons_append]
    rw [closesLoops_other _ _ rfl, ih]
  | loop body next ihb ihn =>
    -- Behind the body stands the end of its loop, so the body is taken with one more loop open.
    simp only [Block.flatten, List.cons_append, List.append_assoc, closesLoops]
    rw [ihb]
    simp only [closesLoops]
    exact ihn rest opened

theorem flatten_balanced (b : Block) : Balanced b.flatten := by
  rw [balanced_iff]
  have := closesLoops_flatten b [] 0
  simpa [closesLoops] using this

/-! ## Balanced lists are flattened blocks -/

namespace Block

/-- The instructions left inside open loops: the rest of the innermost body, and for each loop its end
with what follows it. -/
def unwind (b : Block) : List Block → List Instruction
  | [] => b.flatten
  | next :: outer => b.flatten ++ .finishLoop :: next.unwind outer

theorem exists_unwind_cons {i : Instruction} (h : i.nesting = 0) (next : Block) (outer : List Block) :
    ∃ b : Block, b.unwind outer = i :: next.unwind outer := by
  have prepend (b : Block) (hb : b.flatten = i :: next.flatten) : b.unwind outer = i :: next.unwind outer := by
    cases outer <;> simp [unwind, hb]
  cases i with
  | increment amount => exact ⟨_, prepend (.increment amount next) rfl⟩
  | moveHead offset => exact ⟨_, prepend (.moveHead offset next) rfl⟩
  | input => exact ⟨_, prepend (.input next) rfl⟩
  | output => exact ⟨_, prepend (.output next) rfl⟩
  | startLoop | finishLoop => simp [Instruction.nesting] at h

end Block

theorem exists_unwind (program : List Instruction) (opened : Nat) (h : closesLoops program opened = true) :
    ∃ (b : Block) (outer : List Block), outer.length = opened ∧ program = b.unwind outer := by
  induction program generalizing opened with
  | nil =>
    simp only [closesLoops, beq_iff_eq] at h
    exact ⟨.done, [], by simp [h], rfl⟩
  | cons i rest ih =>
    cases i with
    | startLoop =>
      -- The loop that starts here ends where the innermost block of the rest ends.
      obtain ⟨body, outer, hlen, rfl⟩ := ih (opened + 1) h
      cases outer with
      | nil => simp at hlen
      | cons next outer =>
        refine ⟨.loop body next, outer, by simpa using hlen, ?_⟩
        cases outer <;> simp [Block.unwind, Block.flatten]
    | finishLoop =>
      cases opened with
      | zero => simp [closesLoops] at h
      | succ opened =>
        -- The innermost open body ends here, and what follows goes on in the next one.
        obtain ⟨b, outer, rfl, rfl⟩ := ih opened h
        exact ⟨.done, b :: outer, rfl, rfl⟩
    | increment | moveHead | input | output =>
      rw [closesLoops_other rest opened rfl] at h
      obtain ⟨next, outer, rfl, rfl⟩ := ih opened h
      refine (Block.exists_unwind_cons ?_ next outer).elim fun b hb => ⟨b, outer, rfl, hb.symm⟩
      rfl

theorem balanced_iff_flatten (program : List Instruction) :
    Balanced program ↔ ∃ b : Block, program = b.flatten := by
  constructor
  · intro h
    obtain ⟨b, outer, hlen, rfl⟩ := exists_unwind program 0 ((balanced_iff program).1 h)
    cases outer with
    | nil => exact ⟨b, rfl⟩
    | cons _ _ => simp at hlen
  · rintro ⟨b, rfl⟩
    exact flatten_balanced b

/-! ## A list is flattened from one block only -/

/-- Nothing of a block stands here: the program ends, or the body of a loop does. -/
def Closing (rest : List Instruction) : Prop := rest = [] ∨ ∃ after, rest = .finishLoop :: after

theorem closing_of_flatten_append {b : Block} {p q : List Instruction} (hp : Closing p)
    (h : p = b.flatten ++ q) : b = .done := by
  cases b with
  | done => rfl
  | increment | moveHead | input | output | loop => rcases hp with rfl | ⟨_, rfl⟩ <;> cases h

theorem flatten_append_injective {b c : Block} {p q : List Instruction} (hp : Closing p) (hq : Closing q)
    (h : b.flatten ++ p = c.flatten ++ q) : b = c ∧ p = q := by
  -- What follows a body is the end of its loop, so the two bodies of equal loops end together.
  induction b generalizing c p q with
  | done =>
    obtain rfl := closing_of_flatten_append hp h
    exact ⟨rfl, h⟩
  | increment _ next ih | moveHead _ next ih | input next ih | output next ih =>
    cases c <;> simp only [Block.flatten, List.cons_append, List.nil_append, List.cons.injEq,
      Instruction.increment.injEq, Instruction.moveHead.injEq, reduceCtorEq, false_and, true_and] at h
    case done => rcases hq with rfl | ⟨_, rfl⟩ <;> cases h
    all_goals
      obtain ⟨rfl, rfl⟩ := ih hp hq (by first | exact h | exact h.2)
      simp_all
  | loop body next ihb ihn =>
    cases c with
    | loop body' next' =>
      simp only [Block.flatten, List.cons_append, List.append_assoc, List.cons.injEq, true_and] at h
      obtain ⟨rfl, hrest⟩ := ihb (.inr ⟨_, rfl⟩) (.inr ⟨_, rfl⟩) h
      obtain ⟨rfl, rfl⟩ := ihn hp hq (List.cons.inj hrest).2
      exact ⟨rfl, rfl⟩
    | done => exact absurd (closing_of_flatten_append hq h.symm) (by simp)
    | increment | moveHead | input | output => cases h

theorem flatten_injective {b c : Block} (h : b.flatten = c.flatten) : b = c :=
  (flatten_append_injective (.inl rfl) (.inl rfl) (congrArg (· ++ []) h)).1

/-! ## Every loop instruction has its loop -/

/-- A loop between two pieces of a program. -/
def withLoop (before : List Instruction) (body : Block) (after : List Instruction) : List Instruction :=
  before ++ .startLoop :: (body.flatten ++ .finishLoop :: after)

theorem withLoop_length (before : List Instruction) (body : Block) (after : List Instruction) :
    (withLoop before body after).length = before.length + 1 + body.flatten.length + 1 + after.length := by
  simp only [withLoop, List.length_append, List.length_cons]
  omega

theorem withLoop_cons (i : Instruction) (before : List Instruction) (body : Block) (after : List Instruction) :
    i :: withLoop before body after = withLoop (i :: before) body after := rfl

theorem withLoop_append (pre before : List Instruction) (body : Block) (after : List Instruction) :
    pre ++ withLoop before body after = withLoop (pre ++ before) body after := by
  simp [withLoop]

theorem append_withLoop (before : List Instruction) (body : Block) (after post : List Instruction) :
    withLoop before body after ++ post = withLoop before body (after ++ post) := by
  simp [withLoop]

theorem withLoop_start (before : List Instruction) (body : Block) (after : List Instruction) :
    (withLoop before body after)[before.length]? = some .startLoop := by
  rw [withLoop, List.getElem?_append_right (Nat.le_refl _), Nat.sub_self]
  rfl

theorem withLoop_finish (before : List Instruction) (body : Block) (after : List Instruction) :
    (withLoop before body after)[before.length + 1 + body.flatten.length]? = some .finishLoop := by
  rw [withLoop, Nat.add_assoc, Nat.add_comm 1, List.getElem?_append_right (by omega), Nat.add_sub_cancel_left,
    List.getElem?_cons_succ, List.getElem?_append_right (Nat.le_refl _), Nat.sub_self]
  rfl

theorem flatten_loop (body next : Block) : (Block.loop body next).flatten = withLoop [] body next.flatten := rfl

/-- A place of a flattened loop is its start, a place of the body, its end, or a place behind it. -/
theorem getElem?_loop (body next : Block) (i : Nat) (x : Instruction)
    (h : (Block.loop body next).flatten[i]? = some x) :
    (i = 0 ∧ x = .startLoop) ∨ (∃ j, i = j + 1 ∧ body.flatten[j]? = some x) ∨
      (i = body.flatten.length + 1 ∧ x = .finishLoop) ∨
      ∃ j, i = body.flatten.length + 2 + j ∧ next.flatten[j]? = some x := by
  rw [flatten_loop, withLoop, List.nil_append] at h
  cases i with
  | zero => exact .inl ⟨rfl, by simpa using h.symm⟩
  | succ i =>
    rw [List.getElem?_cons_succ] at h
    by_cases hi : i < body.flatten.length
    · rw [List.getElem?_append_left hi] at h
      exact .inr (.inl ⟨i, rfl, h⟩)
    · rw [List.getElem?_append_right (by omega)] at h
      by_cases he : i = body.flatten.length
      · subst he
        exact .inr (.inr (.inl ⟨rfl, by simpa using h.symm⟩))
      · obtain ⟨j, rfl⟩ : ∃ j, i = body.flatten.length + 1 + j := ⟨i - body.flatten.length - 1, by omega⟩
        rw [show body.flatten.length + 1 + j - body.flatten.length = j + 1 by omega,
          List.getElem?_cons_succ] at h
        exact .inr (.inr (.inr ⟨j, by omega, h⟩))

theorem flatten_start (b : Block) (i : Nat) (h : b.flatten[i]? = some .startLoop) :
    ∃ before body after, b.flatten = withLoop before body after ∧ i = before.length := by
  induction b generalizing i with
  | done => simp [Block.flatten] at h
  | increment _ next ih | moveHead _ next ih | input next ih | output next ih =>
    cases i with
    | zero => simp [Block.flatten] at h
    | succ i =>
      obtain ⟨before, body, after, e, rfl⟩ := ih i (by simpa [Block.flatten] using h)
      exact ⟨_ :: before, body, after, by rw [Block.flatten, e, withLoop_cons], rfl⟩
  | loop body next ihb ihn =>
    rcases getElem?_loop body next i _ h with ⟨rfl, -⟩ | ⟨j, rfl, hj⟩ | ⟨-, hx⟩ | ⟨j, rfl, hj⟩
    · exact ⟨[], body, next.flatten, rfl, rfl⟩
    · obtain ⟨before, inner, after, e, rfl⟩ := ihb j hj
      refine ⟨.startLoop :: before, inner, after ++ .finishLoop :: next.flatten, ?_, rfl⟩
      rw [← withLoop_cons, ← append_withLoop, ← e]; rfl
    · cases hx
    · obtain ⟨before, inner, after, e, rfl⟩ := ihn j hj
      refine ⟨.startLoop :: body.flatten ++ .finishLoop :: before, inner, after, ?_, ?_⟩
      · rw [Block.flatten, e, withLoop_cons, withLoop_append]
      · simp; omega

theorem flatten_finish (b : Block) (i : Nat) (h : b.flatten[i]? = some .finishLoop) :
    ∃ before body after, b.flatten = withLoop before body after ∧
      i = before.length + 1 + body.flatten.length := by
  induction b generalizing i with
  | done => simp [Block.flatten] at h
  | increment _ next ih | moveHead _ next ih | input next ih | output next ih =>
    cases i with
    | zero => simp [Block.flatten] at h
    | succ i =>
      obtain ⟨before, body, after, e, rfl⟩ := ih i (by simpa [Block.flatten] using h)
      exact ⟨_ :: before, body, after, by rw [Block.flatten, e, withLoop_cons], by simp; omega⟩
  | loop body next ihb ihn =>
    rcases getElem?_loop body next i _ h with ⟨-, hx⟩ | ⟨j, rfl, hj⟩ | ⟨rfl, -⟩ | ⟨j, rfl, hj⟩
    · cases hx
    · obtain ⟨before, inner, after, e, rfl⟩ := ihb j hj
      refine ⟨.startLoop :: before, inner, after ++ .finishLoop :: next.flatten, ?_, by simp; omega⟩
      rw [← withLoop_cons, ← append_withLoop, ← e]; rfl
    · exact ⟨[], body, next.flatten, rfl, by simp; omega⟩
    · obtain ⟨before, inner, after, e, rfl⟩ := ihn j hj
      refine ⟨.startLoop :: body.flatten ++ .finishLoop :: before, inner, after, ?_, ?_⟩
      · rw [Block.flatten, e, withLoop_cons, withLoop_append]
      · simp; omega

/-- A loop in front of the end of a body is a loop of that body, or it stands behind that end. -/
theorem withLoop_eq_append {c body : Block} {before after rest : List Instruction}
    (h : withLoop before body after = c.flatten ++ .finishLoop :: rest) :
    (∃ after', c.flatten = withLoop before body after' ∧ after = after' ++ .finishLoop :: rest) ∨
      ∃ before', before = c.flatten ++ .finishLoop :: before' ∧ rest = withLoop before' body after := by
  have hsplit := h
  rw [withLoop, List.append_eq_append_iff] at hsplit
  rcases hsplit with ⟨inner, hc, hinner⟩ | ⟨between, hbefore, hbetween⟩
  · rcases inner with _ | ⟨i, inner⟩
    · cases hinner
    · obtain ⟨rfl, hbody⟩ := List.cons.inj hinner
      -- The block has a loop where the given one starts, and what both start with ends alike.
      obtain ⟨front, body', after', hloop, hfront⟩ := flatten_start c before.length (by rw [hc]; simp)
      rw [hc, withLoop] at hloop
      obtain ⟨rfl, hinside⟩ := List.append_inj hloop hfront
      obtain rfl : inner = body'.flatten ++ .finishLoop :: after' := (List.cons.inj hinside).2
      have hends : body.flatten ++ .finishLoop :: after =
          body'.flatten ++ .finishLoop :: (after' ++ .finishLoop :: rest) := by simpa using hbody
      obtain ⟨rfl, hafter⟩ := flatten_append_injective (.inr ⟨_, rfl⟩) (.inr ⟨_, rfl⟩) hends
      exact .inl ⟨after', hc, (List.cons.inj hafter).2⟩
  · rcases between with _ | ⟨i, between⟩
    · cases hbetween
    · obtain ⟨rfl, hrest⟩ := List.cons.inj hbetween
      exact .inr ⟨between, hbefore, hrest⟩
end Brainfuck
