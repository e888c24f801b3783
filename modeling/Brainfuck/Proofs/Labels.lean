import Brainfuck.Code.Linear.Labels
import Brainfuck.Proofs.Lowering
import Brainfuck.Proofs.Partners
/-!
# Labels are numbered as loops start

`lower_labels`: the code of a balanced program instruction by instruction, its labels, and what is reported of it.

A loop takes its labels where it starts and uses them again where it ends, whatever has been numbered in between. So
all of this goes by the loops of the block and not by the order of the instructions.
-/

namespace Brainfuck

/-! ## Loops of a program -/

section Loops
variable {program : List Instruction} {start finish : Nat}

theorem isLoop_withLoop (before : List Instruction) (body : Block) (after : List Instruction) :
    IsLoop (withLoop before body after) before.length (before.length + 1 + body.flatten.length) :=
  ⟨before, body.flatten, after, rfl, flatten_balanced body, rfl, by omega⟩

/-- The table of partners knows each loop from both ends. -/
theorem IsLoop.partners (h : IsLoop program start finish) {partners : Array Nat}
    (hp : loopPartners program = .ok partners) :
    partners[start]? = some finish ∧ partners[finish]? = some start := by
  obtain ⟨before, body, after, rfl, hbody, rfl, rfl⟩ := h
  obtain ⟨b, rfl⟩ := (balanced_iff_flatten body).1 hbody
  have hloop := @loopPartners_withLoop before after b partners hp
  rw [Nat.add_right_comm] at hloop
  exact hloop

theorem existsUnique_finish (hb : Balanced program) (h : program[start]? = some .startLoop) :
    ∃! finish, IsLoop program start finish := by
  obtain ⟨partners, hp⟩ := exists_loopPartners hb
  obtain ⟨b, rfl⟩ := (balanced_iff_flatten program).1 hb
  obtain ⟨before, body, after, hprogram, rfl⟩ := flatten_start b start h
  have hloop := isLoop_withLoop before body after
  rw [← hprogram] at hloop
  refine ⟨_, hloop, fun finish hother => ?_⟩
  have hsame := (hother.partners hp).1.symm.trans (hloop.partners hp).1
  exact Option.some.inj hsame

theorem existsUnique_start (hb : Balanced program) (h : program[finish]? = some .finishLoop) :
    ∃! start, IsLoop program start finish := by
  obtain ⟨partners, hp⟩ := exists_loopPartners hb
  obtain ⟨b, rfl⟩ := (balanced_iff_flatten program).1 hb
  obtain ⟨before, body, after, hprogram, rfl⟩ := flatten_finish b finish h
  have hloop := isLoop_withLoop before body after
  rw [← hprogram] at hloop
  refine ⟨_, hloop, fun start hother => ?_⟩
  have hsame := (hother.partners hp).2.symm.trans (hloop.partners hp).2
  exact Option.some.inj hsame

end Loops

/-! ## Instruction by instruction -/

namespace Block

/-- The code of a block by instructions, with labels from `n` on. -/
def pieces : Block → Nat → List (List Op)
  | done, _ => []
  | increment amount next, n => [.increment (UInt8.ofInt amount)] :: next.pieces n
  | moveHead offset next, n => [.moveHead offset] :: next.pieces n
  | input next, n => [.input] :: next.pieces n
  | output next, n => [.output] :: next.pieces n
  | loop body next, n =>
    [.jump ⟨n⟩, .mark ⟨n + 1⟩] :: (body.pieces (n + 2) ++
      [.mark ⟨n⟩, .jumpIfNonzero ⟨n + 1⟩] :: next.pieces (n + 2 + 2 * body.loops))

theorem flatten_pieces (b : Block) (n : Nat) : (b.pieces n).flatten = b.code n := by
  induction b generalizing n with
  | done => rfl
  | increment _ next ih | moveHead _ next ih | input next ih | output next ih =>
    rw [pieces, List.flatten_cons, ih, code, List.singleton_append]
  | loop body next ihb ihn =>
    rw [pieces, List.flatten_cons, List.flatten_append, List.flatten_cons, ihb, ihn, code]
    rfl

theorem length_pieces (b : Block) (n : Nat) : (b.pieces n).length = b.flatten.length := by
  induction b generalizing n with
  | done => rfl
  | increment _ next ih | moveHead _ next ih | input next ih | output next ih =>
    rw [pieces, flatten, List.length_cons, List.length_cons, ih]
  | loop body next ihb ihn =>
    simp only [pieces, flatten, List.cons_append, List.length_cons, List.length_append, ihb, ihn]

/-- What the code of a block from label `n` on contributes, wherever the block stands behind so many loops. -/
def Fits (b : Block) : Prop :=
  ∀ (before after : List Instruction) (k : Nat) (ops : List Op),
    (b.pieces (2 * before.count .startLoop))[k]? = some ops →
    Contributes (before ++ (b.flatten ++ after)) (before.length + k) ops

/-- Behind an instruction that starts no loop the labels go on as before it. -/
theorem Fits.behind {next : Block} (h : next.Fits) {i : Instruction} (hi : i ≠ .startLoop)
    {before after : List Instruction} {k : Nat} {ops : List Op}
    (hk : (next.pieces (2 * before.count .startLoop))[k]? = some ops) :
    Contributes (before ++ (i :: next.flatten ++ after)) (before.length + (k + 1)) ops := by
  have hcount : (before ++ [i]).count .startLoop = before.count .startLoop := by
    rw [List.count_append, List.count_singleton, if_neg (by simpa using hi), Nat.add_zero]
  have hrest := h (before ++ [i]) after k ops (by rw [hcount]; exact hk)
  rw [List.length_append, List.length_singleton, List.append_assoc, Nat.add_assoc, Nat.add_comm 1] at hrest
  exact hrest

theorem loopNumber_append (before rest : List Instruction) :
    loopNumber (before ++ rest) before.length = before.count .startLoop := by
  rw [loopNumber, List.take_left]

theorem fits_loop {body next : Block} (hbody : body.Fits) (hnext : next.Fits) : (loop body next).Fits := by
  intro before after k ops h
  have hprogram : before ++ ((loop body next).flatten ++ after) = withLoop before body (next.flatten ++ after) := by
    simp [flatten, withLoop]
  have hloop := isLoop_withLoop before body (next.flatten ++ after)
  have hnumber : loopNumber (withLoop before body (next.flatten ++ after)) before.length =
      before.count Instruction.startLoop := loopNumber_append before _
  rw [hprogram]
  cases k with
  | zero =>
    cases h
    rw [← hnumber]
    exact .startLoop hloop
  | succ k =>
    rw [pieces, List.getElem?_cons_succ] at h
    rcases lt_trichotomy k body.flatten.length with hk | hk | hk
    · -- The body has one loop more in front of it.
      rw [List.getElem?_append_left (by rw [length_pieces]; exact hk)] at h
      have hcount : (before ++ [Instruction.startLoop]).count Instruction.startLoop =
          before.count Instruction.startLoop + 1 := by simp
      have hinside := hbody (before ++ [Instruction.startLoop]) (.finishLoop :: (next.flatten ++ after)) k ops
        (by rw [hcount]; exact h)
      rw [List.length_append, List.length_singleton, List.append_assoc, Nat.add_assoc, Nat.add_comm 1] at hinside
      exact hinside
    · subst hk
      rw [List.getElem?_append_right (by rw [length_pieces]), length_pieces, Nat.sub_self] at h
      cases h
      have hfinish := Contributes.finishLoop hloop
      rw [hnumber, Nat.add_assoc, Nat.add_comm 1] at hfinish
      exact hfinish
    · -- What follows has the loops of the body in front of it as well.
      obtain ⟨j, rfl⟩ : ∃ j, k = body.flatten.length + 1 + j := ⟨k - body.flatten.length - 1, by omega⟩
      rw [List.getElem?_append_right (by rw [length_pieces]; omega), length_pieces,
        show body.flatten.length + 1 + j - body.flatten.length = j + 1 by omega, List.getElem?_cons_succ] at h
      have hcount : (before ++ Instruction.startLoop :: (body.flatten ++ [.finishLoop])).count Instruction.startLoop =
          before.count Instruction.startLoop + 1 + body.loops := by
        simp [count_startLoop]
        omega
      have hbehind := hnext (before ++ Instruction.startLoop :: (body.flatten ++ [.finishLoop])) after j ops (by
        rw [hcount, Nat.mul_add, Nat.mul_add]
        exact h)
      have hlength : (before ++ Instruction.startLoop :: (body.flatten ++ [.finishLoop])).length + j =
          before.length + (body.flatten.length + 1 + j + 1) := by
        simp
        omega
      rw [hlength] at hbehind
      simpa [withLoop] using hbehind

theorem fits (b : Block) : b.Fits := by
  induction b with
  | done =>
    intro before after k ops h
    cases h
  | increment _ next ih | moveHead _ next ih | input next ih | output next ih =>
    intro before after k ops h
    cases k with
    | zero =>
      cases h
      constructor
      simp [flatten]
    | succ k => exact ih.behind (by simp) h
  | loop body next ihb ihn => exact fits_loop ihb ihn

/-! ## How often a label occurs -/

theorem count_mark (b : Block) (n id : Nat) :
    (b.code n).count (.mark ⟨id⟩) = if n ≤ id ∧ id < n + 2 * b.loops then 1 else 0 := by
  induction b generalizing n with
  | done =>
    rw [code, loops, List.count_nil, if_neg (by omega)]
  | increment _ next ih | moveHead _ next ih | input next ih | output next ih =>
    rw [code, List.count_cons_of_ne (by simp), ih, loops]
  | loop body next ihb ihn =>
    rw [loops]
    simp only [code, List.count_cons, List.count_append, ihb, ihn, beq_iff_eq, Op.mark.injEq, Label.mk.injEq,
      reduceCtorEq, if_false]
    split_ifs <;> omega

theorem count_jump (b : Block) (n id : Nat) :
    (b.code n).count (.jump ⟨id⟩) = if n ≤ id ∧ id < n + 2 * b.loops ∧ id % 2 = n % 2 then 1 else 0 := by
  induction b generalizing n with
  | done =>
    rw [code, loops, List.count_nil, if_neg (by omega)]
  | increment _ next ih | moveHead _ next ih | input next ih | output next ih =>
    rw [code, List.count_cons_of_ne (by simp), ih, loops]
  | loop body next ihb ihn =>
    rw [loops]
    simp only [code, List.count_cons, List.count_append, ihb, ihn, beq_iff_eq, Op.jump.injEq, Label.mk.injEq,
      reduceCtorEq, if_false]
    split_ifs <;> omega

theorem count_jumpIfNonzero (b : Block) (n id : Nat) :
    (b.code n).count (.jumpIfNonzero ⟨id⟩) =
      if n ≤ id ∧ id < n + 2 * b.loops ∧ id % 2 ≠ n % 2 then 1 else 0 := by
  induction b generalizing n with
  | done =>
    rw [code, loops, List.count_nil, if_neg (by omega)]
  | increment _ next ih | moveHead _ next ih | input next ih | output next ih =>
    rw [code, List.count_cons_of_ne (by simp), ih, loops]
  | loop body next ihb ihn =>
    rw [loops]
    simp only [code, List.count_cons, List.count_append, ihb, ihn, beq_iff_eq, Op.jumpIfNonzero.injEq,
      Label.mk.injEq, reduceCtorEq, if_false]
    split_ifs <;> omega

/-! ## Where the loops stand -/

theorem bodyLabel_eq_iff {m id : Nat} : bodyLabel m = ⟨id⟩ ↔ 2 * m + 1 = id := by
  rw [bodyLabel, Label.mk.injEq]

theorem conditionLabel_eq_iff {m id : Nat} : conditionLabel m = ⟨id⟩ ↔ 2 * m = id := by
  rw [conditionLabel, Label.mk.injEq]

theorem mark_bounds {b : Block} {n p id : Nat} (h : (b.code n)[p]? = some (.mark ⟨id⟩)) :
    n ≤ id ∧ id < n + 2 * b.loops := by
  have hpos : 0 < (b.code n).count (.mark ⟨id⟩) := List.count_pos_iff.2 (List.mem_of_getElem? h)
  rw [count_mark] at hpos
  by_contra hout
  rw [if_neg hout] at hpos
  exact absurd hpos (Nat.lt_irrefl 0)

theorem exists_mark {b : Block} {n id : Nat} (h : n ≤ id ∧ id < n + 2 * b.loops) :
    ∃ p : Nat, (b.code n)[p]? = some (Op.mark ⟨id⟩) := by
  have hpos : 0 < (b.code n).count (.mark ⟨id⟩) := by
    rw [count_mark, if_pos h]
    exact Nat.zero_lt_one
  exact List.mem_iff_getElem?.1 (List.count_pos_iff.1 hpos)

/-- A mark in the code of a loop is one of the two of the loop itself, or it is one of the body or of what follows. -/
theorem mark_loop {body next : Block} {n p : Nat} {l : Label}
    (h : ((loop body next).code n)[p]? = some (.mark l)) :
    (p = 1 ∧ l = ⟨n + 1⟩) ∨
      (∃ q, p = q + 2 ∧ q < (body.code (n + 2)).length ∧ (body.code (n + 2))[q]? = some (.mark l)) ∨
      (p = (body.code (n + 2)).length + 2 ∧ l = ⟨n⟩) ∨
      ∃ q, p = (body.code (n + 2)).length + 4 + q ∧ (next.code (n + 2 + 2 * body.loops))[q]? = some (.mark l) := by
  rw [code] at h
  rcases p with _ | _ | p
  · cases h
  · cases h
    exact .inl ⟨rfl, rfl⟩
  · rw [List.getElem?_cons_succ, List.getElem?_cons_succ] at h
    by_cases hp : p < (body.code (n + 2)).length
    · rw [List.getElem?_append_left hp] at h
      exact .inr (.inl ⟨p, rfl, hp, h⟩)
    · obtain ⟨q, rfl⟩ : ∃ q, p = (body.code (n + 2)).length + q := ⟨p - (body.code (n + 2)).length, by omega⟩
      rw [List.getElem?_append_right (by omega), Nat.add_sub_cancel_left] at h
      rcases q with _ | _ | q
      · cases h
        exact .inr (.inr (.inl ⟨rfl, rfl⟩))
      · cases h
      · rw [List.getElem?_cons_succ, List.getElem?_cons_succ] at h
        exact .inr (.inr (.inr ⟨q, by omega, h⟩))

/-- The first loop of a block spans its body; every other one stands in that body or behind the loop. -/
theorem spans_loop {body next : Block} {m n first last : Nat}
    (h : Spans ((loop body next).code (2 * n)) m first last) :
    (m = n ∧ first = 1 ∧ last = (body.code (2 * n + 2)).length + 2) ∨
      (∃ f l, first = f + 2 ∧ last = l + 2 ∧ f < (body.code (2 * n + 2)).length ∧
        l < (body.code (2 * n + 2)).length ∧ Spans (body.code (2 * (n + 1))) m f l) ∨
      ∃ f l, first = (body.code (2 * n + 2)).length + 4 + f ∧ last = (body.code (2 * n + 2)).length + 4 + l ∧
        Spans (next.code (2 * (n + 1 + body.loops))) m f l := by
  obtain ⟨hfirst, hlast⟩ := h
  rw [Nat.mul_add, Nat.mul_add, Nat.mul_add]
  -- The two labels of a loop are neighbours, so both of them belong to the same part.
  rcases mark_loop hfirst with ⟨rfl, hl⟩ | ⟨f, rfl, hf, hbody⟩ | ⟨-, hl⟩ | ⟨f, rfl, hnext⟩
  · obtain rfl : m = n := by have := bodyLabel_eq_iff.1 hl; omega
    rcases mark_loop hlast with ⟨-, hl'⟩ | ⟨_, _, _, hbody⟩ | ⟨rfl, -⟩ | ⟨_, _, hnext⟩
    · have := conditionLabel_eq_iff.1 hl'; omega
    · have := mark_bounds hbody; omega
    · exact .inl ⟨rfl, rfl, rfl⟩
    · have := mark_bounds hnext; omega
  · have hbounds := mark_bounds hbody
    rcases mark_loop hlast with ⟨-, hl'⟩ | ⟨l, rfl, hl, hbody'⟩ | ⟨-, hl'⟩ | ⟨_, _, hnext⟩
    · have := conditionLabel_eq_iff.1 hl'; omega
    · exact .inr (.inl ⟨f, l, rfl, rfl, hf, hl, hbody, hbody'⟩)
    · have := conditionLabel_eq_iff.1 hl'; omega
    · have := mark_bounds hnext; omega
  · have := bodyLabel_eq_iff.1 hl; omega
  · have hbounds := mark_bounds hnext
    rcases mark_loop hlast with ⟨-, hl'⟩ | ⟨_, _, _, hbody⟩ | ⟨-, hl'⟩ | ⟨l, rfl, hnext'⟩
    · have := conditionLabel_eq_iff.1 hl'; omega
    · have := mark_bounds hbody; omega
    · have := conditionLabel_eq_iff.1 hl'; omega
    · exact .inr (.inr ⟨f, l, rfl, rfl, hnext, hnext'⟩)

/-- Behind an operation that marks nothing all loops stand one place further on. -/
theorem spans_tail {op : Op} {code : List Op} {m first last : Nat} (hop : op.mark? = none)
    (h : Spans (op :: code) m first last) : ∃ f l, first = f + 1 ∧ last = l + 1 ∧ Spans code m f l := by
  obtain ⟨hfirst, hlast⟩ := h
  rcases first with _ | f
  · cases hfirst
    cases hop
  · rcases last with _ | l
    · cases hlast
      cases hop
    · exact ⟨f, l, rfl, rfl, hfirst, hlast⟩

theorem spans_ordered {b : Block} {m n first last : Nat} (h : Spans (b.code (2 * n)) m first last) :
    first < last := by
  induction b generalizing n first last with
  | done => cases h.body
  | increment _ next ih | moveHead _ next ih | input next ih | output next ih =>
    obtain ⟨f, l, rfl, rfl, hnext⟩ := spans_tail rfl h
    exact Nat.succ_lt_succ (ih hnext)
  | loop body next ihb ihn =>
    rcases spans_loop h with ⟨-, rfl, rfl⟩ | ⟨f, l, rfl, rfl, -, -, hbody⟩ | ⟨f, l, rfl, rfl, hnext⟩
    · omega
    · have := ihb hbody
      omega
    · have := ihn hnext
      omega

theorem spans_nested {b : Block} {m m' n first last first' last' : Nat} (hne : m ≠ m')
    (h : Spans (b.code (2 * n)) m first last) (h' : Spans (b.code (2 * n)) m' first' last') :
    NestedOrDisjoint first last first' last' := by
  induction b generalizing n first last first' last' with
  | done => cases h.body
  | increment _ next ih | moveHead _ next ih | input next ih | output next ih =>
    obtain ⟨f, l, rfl, rfl, hnext⟩ := spans_tail rfl h
    obtain ⟨f', l', rfl, rfl, hnext'⟩ := spans_tail rfl h'
    have := ih hnext hnext'
    unfold NestedOrDisjoint at this ⊢
    omega
  | loop body next ihb ihn =>
    -- Loops of one part are apart or nested already; the loop itself encloses its body and ends before what follows.
    rcases spans_loop h with ⟨rfl, rfl, rfl⟩ | ⟨f, l, rfl, rfl, hf, hl, hbody⟩ | ⟨f, l, rfl, rfl, hnext⟩ <;>
      rcases spans_loop h' with ⟨rfl, rfl, rfl⟩ | ⟨f', l', rfl, rfl, hf', hl', hbody'⟩ | ⟨f', l', rfl, rfl, hnext'⟩
    · exact absurd rfl hne
    · unfold NestedOrDisjoint
      omega
    · unfold NestedOrDisjoint
      omega
    · unfold NestedOrDisjoint
      omega
    · have := ihb hbody hbody'
      unfold NestedOrDisjoint at this ⊢
      omega
    · unfold NestedOrDisjoint
      omega
    · unfold NestedOrDisjoint
      omega
    · unfold NestedOrDisjoint
      omega
    · have := ihn hnext hnext'
      unfold NestedOrDisjoint at this ⊢
      omega

theorem exists_spans {b : Block} {m : Nat} (h : m < b.loops) : ∃ first last, Spans (b.code 0) m first last := by
  obtain ⟨first, hfirst⟩ : ∃ p : Nat, (b.code 0)[p]? = some (Op.mark ⟨2 * m + 1⟩) := exists_mark (by omega)
  obtain ⟨last, hlast⟩ : ∃ p : Nat, (b.code 0)[p]? = some (Op.mark ⟨2 * m⟩) := exists_mark (by omega)
  exact ⟨first, last, hfirst, hlast⟩

/-! ## The whole code -/

section Whole
variable {tapeLength : Nat} {b : Block} {m first last : Nat}

/-- The two ends of the code mark nothing. -/
theorem spans_whole (h : Spans (.allocate tapeLength :: (b.code 0 ++ [.halt])) m first last) :
    ∃ f l, first = f + 1 ∧ last = l + 1 ∧ Spans (b.code (2 * 0)) m f l := by
  obtain ⟨f, l, rfl, rfl, hfirst, hlast⟩ := spans_tail rfl h
  have hinside {k : Nat} {label : Label} (hk : (b.code 0 ++ [.halt])[k]? = some (.mark label)) :
      (b.code 0)[k]? = some (.mark label) := by
    rw [List.getElem?_append] at hk
    split at hk
    · exact hk
    · cases List.mem_singleton.1 (List.mem_of_getElem? hk)
  exact ⟨f, l, rfl, rfl, hinside hfirst, hinside hlast⟩

theorem spans_of_code (h : Spans (b.code 0) m first last) :
    Spans (.allocate tapeLength :: (b.code 0 ++ [.halt])) m (first + 1) (last + 1) := by
  obtain ⟨hfirst, hlast⟩ := h
  have hinside {k : Nat} {label : Label} (hk : (b.code 0)[k]? = some (.mark label)) :
      (Op.allocate tapeLength :: (b.code 0 ++ [.halt]))[k + 1]? = some (.mark label) := by
    rw [List.getElem?_cons_succ, List.getElem?_append_left (List.getElem?_eq_some_iff.1 hk).1, hk]
  exact ⟨hinside hfirst, hinside hlast⟩

theorem numbered (tapeLength : Nat) (b : Block) :
    Numbered b.loops (.allocate tapeLength :: (b.code 0 ++ [.halt])) := by
  constructor
  · rintro ⟨id⟩
    have hcount := count_mark b 0 id
    simpa [List.count_cons, List.count_append] using hcount
  · rintro ⟨id⟩
    have hcount := count_jump b 0 id
    simpa [List.count_cons, List.count_append] using hcount
  · rintro ⟨id⟩
    have hcount := count_jumpIfNonzero b 0 id
    simpa [List.count_cons, List.count_append] using hcount
  · intro n hn
    obtain ⟨first, last, h⟩ := exists_spans hn
    exact ⟨first + 1, last + 1, spans_of_code h⟩
  · intro n first last h
    obtain ⟨f, l, rfl, rfl, hcode⟩ := spans_whole h
    exact Nat.succ_lt_succ (spans_ordered hcode)
  · intro m n first last first' last' hne h h'
    obtain ⟨f, l, rfl, rfl, hcode⟩ := spans_whole h
    obtain ⟨f', l', rfl, rfl, hcode'⟩ := spans_whole h'
    have := spans_nested hne hcode hcode'
    unfold NestedOrDisjoint at this ⊢
    omega

end Whole

end Block

/-! ## What is reported -/

namespace Lowering

section Reports
variable {s s' t : Lowering} {i : Instruction} {program : List Instruction}

/-- One instruction is reported with the depth in front of it, and changes the depth as loops do. -/
theorem step_reports (h : (s.announce i).step i = .ok s') :
    s'.events = s.events.push (.lowering i s.depth) ∧ s'.lowered = s.lowered + 1 ∧
      s'.nextLabel = s.nextLabel + 2 * [i].count .startLoop ∧
      s'.depth + [i].count .finishLoop = s.depth + [i].count .startLoop := by
  rcases step_cases h with ⟨op, hop, rfl⟩ | ⟨rfl, rfl⟩ | ⟨frame, rfl, hframe, rfl⟩
  · refine ⟨rfl, rfl, ?_⟩
    cases i <;> first | exact ⟨rfl, rfl⟩ | cases hop
  · refine ⟨rfl, rfl, rfl, ?_⟩
    simp [depth, announce, openLoop]
  · refine ⟨rfl, rfl, rfl, ?_⟩
    obtain ⟨outer, houter⟩ := Array.back?_eq_some_iff.1 hframe
    simp [depth, closed, houter]

theorem Passes.reports (h : Passes s program t) :
    t.lowered = s.lowered + program.length ∧ t.nextLabel = s.nextLabel + 2 * program.count .startLoop ∧
      ∃ reports : List Event, t.events.toList = s.events.toList ++ reports ∧ reports.length = program.length ∧
        ∀ k ≤ program.length, ∃ u, Passes s (program.take k) u ∧
          u.depth + (program.take k).count .finishLoop = s.depth + (program.take k).count .startLoop ∧
          ∀ i, program[k]? = some i → reports[k]? = some (.lowering i u.depth) := by
  induction h with
  | nil s =>
    refine ⟨rfl, rfl, [], by simp, rfl, fun k hk => ?_⟩
    obtain rfl : k = 0 := Nat.le_zero.1 hk
    exact ⟨s, .nil s, rfl, fun i hi => by cases hi⟩
  | @cons s s' t i rest hstep hrest ih =>
    obtain ⟨hevents, hlowered, hlabel, hdepth⟩ := step_reports hstep
    obtain ⟨hlowered', hlabel', reports, hevents', hlength, hreports⟩ := ih
    rw [List.count_cons (l := rest), List.length_cons]
    rw [List.count_singleton] at hlabel hdepth
    refine ⟨by omega, by omega, .lowering i s.depth :: reports, by simp [hevents', hevents], by simp [hlength], ?_⟩
    rintro (_ | k) hk
    · refine ⟨s, .nil s, rfl, fun j hj => ?_⟩
      cases hj
      rfl
    · obtain ⟨u, hu, hudepth, hreport⟩ := hreports k (Nat.le_of_succ_le_succ hk)
      refine ⟨u, .cons hstep hu, ?_, hreport⟩
      rw [List.take_succ_cons, List.count_cons, List.count_cons]
      rw [List.count_singleton] at hdepth
      omega

end Reports

end Lowering

theorem lower_events {tapeLength : Nat} (hN : 0 < tapeLength) {program : List Instruction} {s : Lowering}
    (h : Lowering.Passes (.start tapeLength) program s) (ho : s.openLoops = #[]) :
    (lower tapeLength program).events = s.events.push (.generated s.lowered s.nextLabel) := by
  have he : s.openLoops.isEmpty = true := by rw [ho]; rfl
  rw [lower, if_neg (by omega), h.run, if_pos he]

/-! ## All of it -/

theorem lower_labels {tapeLength : Nat} {program : List Instruction} (hN : 0 < tapeLength) (hb : Balanced program) :
    ∃ (pieces : List (List Op)) (reports : List Event),
      (lower tapeLength program).result = .ok (.allocate tapeLength :: (pieces.flatten ++ [.halt])) ∧
      pieces.length = program.length ∧ (∀ k ops, pieces[k]? = some ops → Contributes program k ops) ∧
      (∀ start, program[start]? = some .startLoop → ∃! finish, IsLoop program start finish) ∧
      (∀ finish, program[finish]? = some .finishLoop → ∃! start, IsLoop program start finish) ∧
      Numbered (program.count .startLoop) (.allocate tapeLength :: (pieces.flatten ++ [.halt])) ∧
      (lower tapeLength program).events.toList =
        reports ++ [.generated program.length (2 * program.count .startLoop)] ∧
      reports.length = program.length ∧
      ∀ k ≤ program.length, ∃ s, Lowering.Passes (.start tapeLength) (program.take k) s ∧
        s.depth + (program.take k).count .finishLoop = (program.take k).count .startLoop ∧
        ∀ i, program[k]? = some i → reports[k]? = some (.lowering i s.depth) := by
  obtain ⟨b, hprogram⟩ := (balanced_iff_flatten program).1 hb
  have hstarts : program.count .startLoop = b.loops := by rw [hprogram, b.count_startLoop]
  obtain ⟨s, hs, hopen, -⟩ := Lowering.passes_code b (.start tapeLength)
  rw [← hprogram] at hs
  obtain ⟨hlowered, hlabel, reports, hevents, hlength, hreports⟩ := hs.reports
  refine ⟨b.pieces 0, reports, ?_, ?_, ?_, ?_, ?_, ?_, ?_, hlength, ?_⟩
  · rw [b.flatten_pieces, hprogram]
    exact lower_block hN b
  · rw [b.length_pieces, hprogram]
  · intro k ops hk
    have hfits := b.fits [] [] k ops hk
    rw [List.append_nil, List.nil_append, List.length_nil, Nat.zero_add, ← hprogram] at hfits
    exact hfits
  · exact fun start hstart => existsUnique_finish hb hstart
  · exact fun finish hfinish => existsUnique_start hb hfinish
  · rw [b.flatten_pieces, hstarts]
    exact b.numbered tapeLength
  · have hstart : (Lowering.start tapeLength).events.toList = [] := rfl
    rw [lower_events hN hs hopen, Array.toList_push, hevents, hstart, hlowered, hlabel, List.nil_append]
    congr 3
    · exact Nat.zero_add _
    · exact Nat.zero_add _
  · intro k hk
    obtain ⟨u, hu, hdepth, hreport⟩ := hreports k hk
    exact ⟨u, hu, hdepth.trans (Nat.zero_add _), hreport⟩

/-- A loop within a loop, and one behind both. -/
theorem lower_labels_inAndBehind :
    let program : List Instruction := [.startLoop, .startLoop, .finishLoop, .finishLoop, .startLoop, .finishLoop]
    let code : List Op := [.allocate 1, .jump ⟨0⟩, .mark ⟨1⟩, .jump ⟨2⟩, .mark ⟨3⟩, .mark ⟨2⟩, .jumpIfNonzero ⟨3⟩,
      .mark ⟨0⟩, .jumpIfNonzero ⟨1⟩, .jump ⟨4⟩, .mark ⟨5⟩, .mark ⟨4⟩, .jumpIfNonzero ⟨5⟩, .halt]
    Balanced program ∧ (lower 1 program).result = .ok code ∧ Numbered 3 code ∧
      (∃! finish, IsLoop program 1 finish) ∧
      ∃ reports, (lower 1 program).events.toList = reports ++ [.generated 6 6] ∧
        ∃ s, Lowering.Passes (.start 1) (program.take 2) s ∧ s.depth = 2 ∧
          reports[2]? = some (.lowering .finishLoop s.depth) := by
  intro program code
  have hb : Balanced program := by decide
  obtain ⟨pieces, reports, hresult, -, -, hfinish, -, hnumbered, hevents, -, hreports⟩ :=
    lower_labels Nat.zero_lt_one hb
  have hcode : (lower 1 program).result = .ok code := rfl
  have hsame : .allocate 1 :: (pieces.flatten ++ [.halt]) = code := Except.ok.inj (hresult.symm.trans hcode)
  rw [hsame] at hnumbered
  obtain ⟨s, hs, hdepth, hreport⟩ := hreports 2 (by decide)
  exact ⟨hb, hcode, hnumbered, hfinish 1 rfl, reports, hevents, s, hs, hdepth, hreport .finishLoop rfl⟩

end Brainfuck
