import Brainfuck.Code.Linear
import Brainfuck.Proofs.Balance
import Mathlib
/-!
# The code of a balanced program

`lower_flatten`: every flattened block has linear code, and `lower_block`: which. `IsCode.labelled`: its labels
are marked once, and no jump goes to a label that is not there. `IsCode.straight` and `IsCode.loop` say what
stands where in the code.
-/

namespace Brainfuck

/-! ## Shapes of code -/

namespace Instruction

/-- The operation of an instruction that is no loop instruction. -/
def op? : Instruction → Option Op
  | increment amount => some (.increment (UInt8.ofInt amount))
  | moveHead offset => some (.moveHead offset)
  | input => some .input
  | output => some .output
  | startLoop | finishLoop => none

/-- How many operations an instruction becomes. -/
def width : Instruction → Nat
  | startLoop | finishLoop => 2
  | _ => 1

end Instruction

/-- How many operations a list of instructions becomes. -/
def codeLength (program : List Instruction) : Nat := (program.map Instruction.width).sum

theorem codeLength_cons (i : Instruction) (program : List Instruction) :
    codeLength (i :: program) = i.width + codeLength program := rfl

theorem codeLength_append (p q : List Instruction) : codeLength (p ++ q) = codeLength p + codeLength q := by
  simp [codeLength]

namespace Op

def mark? : Op → Option Label
  | mark l => some l
  | _ => none

/-- Where a jump goes. -/
def target? : Op → Option Label
  | jump l | jumpIfNonzero l => some l
  | _ => none

end Op

def marks (code : List Op) : List Label := code.filterMap Op.mark?

def targets (code : List Op) : List Label := code.filterMap Op.target?

@[simp] theorem marks_nil : marks [] = [] := rfl

@[simp] theorem targets_nil : targets [] = [] := rfl

@[simp] theorem marks_cons (op : Op) (code : List Op) : marks (op :: code) = op.mark?.toList ++ marks code := by
  cases op <;> rfl

@[simp] theorem targets_cons (op : Op) (code : List Op) :
    targets (op :: code) = op.target?.toList ++ targets code := by
  cases op <;> rfl

@[simp] theorem marks_append (p q : List Op) : marks (p ++ q) = marks p ++ marks q := by simp [marks]

@[simp] theorem targets_append (p q : List Op) : targets (p ++ q) = targets p ++ targets q := by simp [targets]

/-- Every label is marked at most once, and at least once if a jump goes to it. -/
structure Labelled (code : List Op) : Prop where
  nodup : (marks code).Nodup
  marked : ∀ l ∈ targets code, l ∈ marks code

/-- What is found by its name is found at its place, if no other element has the name. -/
theorem findIdx?_of_nodup {α β : Type} [DecidableEq α] (name : α → Option β) {xs : List α}
    (h : (xs.filterMap name).Nodup) {i : Nat} {x : α} {b : β} (hx : xs[i]? = some x)
    (hb : name x = some b) : xs.findIdx? (fun y => y = x) = some i := by
  induction xs generalizing i with
  | nil => simp at hx
  | cons y xs ih =>
    cases i with
    | zero =>
      simp only [List.getElem?_cons_zero, Option.some.injEq] at hx
      simp [List.findIdx?_cons, hx]
    | succ i =>
      rw [List.getElem?_cons_succ] at hx
      have hmem : b ∈ xs.filterMap name := List.mem_filterMap.2 ⟨x, List.mem_of_getElem? hx, hb⟩
      have hyx : y ≠ x := by
        rintro rfl
        rw [List.filterMap_cons_some hb] at h
        exact (List.nodup_cons.1 h).1 hmem
      have hxs : (xs.filterMap name).Nodup := by
        rw [List.filterMap_cons] at h
        split at h
        · exact h
        · exact (List.nodup_cons.1 h).2
      simp [List.findIdx?_cons, hyx, ih hxs hx]

/-! ## One instruction at a time -/

namespace Lowering

/-- `Passes s program t`: lowering the program gets from `s` to `t`. -/
inductive Passes : Lowering → List Instruction → Lowering → Prop
  | nil (s : Lowering) : Passes s [] s
  | cons {s s' t : Lowering} {i : Instruction} {rest : List Instruction} : (s.announce i).step i = .ok s' →
      Passes s' rest t → Passes s (i :: rest) t

theorem Passes.append {s t u : Lowering} {p q : List Instruction} (hp : Passes s p t) (hq : Passes t q u) :
    Passes s (p ++ q) u := by
  induction hp with
  | nil => exact hq
  | cons hs _ ih => exact .cons hs (ih hq)

theorem Passes.split {s u : Lowering} {p q : List Instruction} (h : Passes s (p ++ q) u) :
    ∃ t, Passes s p t ∧ Passes t q u := by
  induction p generalizing s with
  | nil => exact ⟨s, .nil s, h⟩
  | cons i p ih =>
    cases h with
    | cons hs hrest =>
      obtain ⟨t, hp, hq⟩ := ih hrest
      exact ⟨t, .cons hs hp, hq⟩

theorem Passes.unique {s t t' : Lowering} {p : List Instruction} (h : Passes s p t) (h' : Passes s p t') :
    t = t' := by
  induction h with
  | nil => cases h'; rfl
  | cons hs _ ih =>
    cases h' with
    | cons hs' hrest' =>
      rw [hs] at hs'
      cases hs'
      exact ih hrest'

theorem Passes.run {s t : Lowering} {p : List Instruction} (h : Passes s p t) :
    run p s = (if t.openLoops.isEmpty then .ok () else .error .loopsLeftOpen, t) := by
  induction h with
  | nil s => rfl
  | cons hs _ ih => rw [Lowering.run, hs]; exact ih

/-- What the end of a loop with the given labels leaves behind. -/
def closed (s : Lowering) (frame : LoopLabels) : Lowering :=
  { s.announce .finishLoop with
    ops := (s.ops.push (.mark frame.condition)).push (.jumpIfNonzero frame.body)
    openLoops := s.openLoops.pop
    lowered := s.lowered + 1 }

theorem step_finishLoop {s : Lowering} {frame : LoopLabels} (h : s.openLoops.back? = some frame) :
    (s.announce .finishLoop).step .finishLoop = .ok (s.closed frame) := by
  simp only [step, closeLoop, announce, h]
  rfl

/-- All that lowering one instruction can do. -/
theorem step_cases {s s' : Lowering} {i : Instruction} (h : (s.announce i).step i = .ok s') :
    (∃ op, i.op? = some op ∧ s' = (s.announce i).emit op) ∨
      (i = .startLoop ∧ s' = (s.announce i).openLoop) ∨
      ∃ frame, i = .finishLoop ∧ s.openLoops.back? = some frame ∧ s' = s.closed frame := by
  cases i with
  | increment | moveHead | input | output =>
    cases h
    exact .inl ⟨_, rfl, rfl⟩
  | startLoop =>
    cases h
    exact .inr (.inl ⟨rfl, rfl⟩)
  | finishLoop =>
    cases hf : s.openLoops.back? with
    | none => simp [step, closeLoop, announce, hf] at h
    | some frame =>
      rw [step_finishLoop hf] at h
      cases h
      exact .inr (.inr ⟨frame, rfl, rfl, rfl⟩)

theorem op_width {i : Instruction} {op : Op} (h : i.op? = some op) : i.width = 1 := by
  cases i <;> simp_all [Instruction.op?, Instruction.width]

/-! ## Code only grows -/

theorem step_grows {s s' : Lowering} {i : Instruction} (h : (s.announce i).step i = .ok s') :
    ∃ new, s'.ops.toList = s.ops.toList ++ new ∧ new.length = i.width := by
  rcases step_cases h with ⟨op, hop, rfl⟩ | ⟨rfl, rfl⟩ | ⟨frame, rfl, -, rfl⟩
  · exact ⟨[op], by simp [announce, emit], by simp [op_width hop]⟩
  · exact ⟨[.jump ⟨s.nextLabel⟩, .mark ⟨s.nextLabel + 1⟩], by simp [announce, openLoop], rfl⟩
  · exact ⟨[.mark frame.condition, .jumpIfNonzero frame.body], by simp [closed], rfl⟩

theorem Passes.grows {s t : Lowering} {p : List Instruction} (h : Passes s p t) :
    ∃ new, t.ops.toList = s.ops.toList ++ new ∧ new.length = codeLength p := by
  induction h with
  | nil s => exact ⟨[], by simp, rfl⟩
  | cons hs _ ih =>
    obtain ⟨new, e, hlen⟩ := step_grows hs
    obtain ⟨more, e', hlen'⟩ := ih
    exact ⟨new ++ more, by rw [e', e, List.append_assoc], by rw [List.length_append, hlen, hlen', codeLength_cons]⟩

/-- What has been written stays where it is. -/
theorem Passes.keeps {s t : Lowering} {p : List Instruction} (h : Passes s p t) {k : Nat} {op : Op}
    (hk : s.ops.toList[k]? = some op) : t.ops.toList[k]? = some op := by
  obtain ⟨new, e, -⟩ := h.grows
  have hlt : k < s.ops.toList.length := (List.getElem?_eq_some_iff.1 hk).1
  rw [e, List.getElem?_append_left hlt, hk]

/-- What is written comes from an instruction, or it is a mark or a jump. -/
theorem Passes.mem {s t : Lowering} {p : List Instruction} (h : Passes s p t) {op : Op}
    (hop : op ∈ t.ops.toList) :
    op ∈ s.ops.toList ∨ (∃ i ∈ p, i.op? = some op) ∨ op.mark?.isSome ∨ op.target?.isSome := by
  induction h with
  | nil => exact .inl hop
  | @cons s s' t i rest hs _ ih =>
    rcases ih hop with hmem | ⟨j, hj, hjop⟩ | hlabel
    · rcases step_cases hs with ⟨op', hop', rfl⟩ | ⟨rfl, rfl⟩ | ⟨frame, rfl, -, rfl⟩
      · simp only [announce, emit, Array.toList_push, List.mem_append, List.mem_singleton] at hmem
        rcases hmem with hmem | rfl
        · exact .inl hmem
        · exact .inr (.inl ⟨i, by simp, hop'⟩)
      · simp only [announce, openLoop, Array.toList_push, List.mem_append, List.mem_singleton] at hmem
        rcases hmem with (hmem | rfl) | rfl
        · exact .inl hmem
        · exact .inr (.inr (.inr rfl))
        · exact .inr (.inr (.inl rfl))
      · simp only [closed, Array.toList_push, List.mem_append, List.mem_singleton] at hmem
        rcases hmem with (hmem | rfl) | rfl
        · exact .inl hmem
        · exact .inr (.inr (.inl rfl))
        · exact .inr (.inr (.inr rfl))
    · exact .inr (.inl ⟨j, List.mem_cons_of_mem _ hj, hjop⟩)
    · exact .inr (.inr hlabel)

/-! ## Labels are fresh -/

/-- The labels of the code so far, and of what will be marked when the open loops close. -/
structure Fresh (s : Lowering) : Prop where
  nodup : (marks s.ops.toList ++ s.openLoops.toList.map LoopLabels.condition).Nodup
  below : ∀ l ∈ marks s.ops.toList ++ s.openLoops.toList.map LoopLabels.condition, l.id < s.nextLabel
  bodies : ∀ frame ∈ s.openLoops.toList, frame.body ∈ marks s.ops.toList
  marked : ∀ l ∈ targets s.ops.toList,
    l ∈ marks s.ops.toList ++ s.openLoops.toList.map LoopLabels.condition

theorem fresh_start (tapeLength : Nat) : Fresh (start tapeLength) := by
  constructor <;> simp [start, Op.mark?, Op.target?]

theorem fresh_emit {s : Lowering} (h : Fresh s) {i : Instruction} {op : Op} (hop : i.op? = some op) :
    Fresh ((s.announce i).emit op) := by
  have hm : op.mark? = none := by cases i <;> cases hop <;> rfl
  have ht : op.target? = none := by cases i <;> cases hop <;> rfl
  have em : marks (s.ops.toList ++ [op]) = marks s.ops.toList := by simp [hm]
  have et : targets (s.ops.toList ++ [op]) = targets s.ops.toList := by simp [ht]
  constructor <;> simp only [announce, emit, Array.toList_push, em, et]
  exacts [h.nodup, h.below, h.bodies, h.marked]

theorem fresh_openLoop {s : Lowering} (h : Fresh s) (i : Instruction) : Fresh (s.announce i).openLoop := by
  have em : marks (s.ops.toList ++ [.jump ⟨s.nextLabel⟩, .mark ⟨s.nextLabel + 1⟩]) =
      marks s.ops.toList ++ [⟨s.nextLabel + 1⟩] := by simp [Op.mark?]
  have et : targets (s.ops.toList ++ [.jump ⟨s.nextLabel⟩, .mark ⟨s.nextLabel + 1⟩]) =
      targets s.ops.toList ++ [⟨s.nextLabel⟩] := by simp [Op.target?]
  have unused (n : Nat) (hn : s.nextLabel ≤ n) :
      (⟨n⟩ : Label) ∉ marks s.ops.toList ++ s.openLoops.toList.map LoopLabels.condition := fun hmem => by
    have := h.below _ hmem
    simp only at this
    omega
  constructor <;>
    simp only [announce, openLoop, Array.toList_push, List.append_assoc, List.cons_append, List.nil_append,
      em, et, List.map_append, List.map_cons, List.map_nil]
  · -- The new condition and body stand apart from the old labels and from each other.
    have hperm : (marks s.ops.toList ++ (⟨s.nextLabel + 1⟩ : Label) ::
        (s.openLoops.toList.map LoopLabels.condition ++ [(⟨s.nextLabel⟩ : Label)])).Perm
        ((⟨s.nextLabel + 1⟩ : Label) :: (⟨s.nextLabel⟩ : Label) ::
          (marks s.ops.toList ++ s.openLoops.toList.map LoopLabels.condition)) := by
      refine List.perm_middle.trans (.cons _ ?_)
      rw [← List.append_assoc]
      exact List.perm_append_comm
    rw [hperm.nodup_iff, List.nodup_cons, List.nodup_cons]
    refine ⟨?_, unused _ (Nat.le_refl _), h.nodup⟩
    rw [List.mem_cons, not_or]
    exact ⟨by simp, unused _ (by omega)⟩
  · intro l hl
    simp only [List.mem_append, List.mem_cons, List.not_mem_nil, or_false] at hl
    rcases hl with hl | rfl | hl | rfl
    · have := h.below l (List.mem_append_left _ hl); omega
    · simp
    · have := h.below l (List.mem_append_right _ hl); omega
    · simp
  · intro frame hf
    rcases List.mem_append.1 hf with hf | hf
    · exact List.mem_append_left _ (h.bodies frame hf)
    · rw [List.mem_singleton] at hf
      subst hf
      simp
  · intro l hl
    rcases List.mem_append.1 hl with hl | hl
    · have := h.marked l hl
      simp only [List.mem_append, List.mem_cons] at this ⊢
      tauto
    · rw [List.mem_singleton] at hl
      subst hl
      simp

theorem fresh_closed {s : Lowering} (h : Fresh s) {frame : LoopLabels} (hf : s.openLoops.back? = some frame) :
    Fresh (s.closed frame) := by
  -- The condition moves from the open loops to the marks; no label comes or goes.
  obtain ⟨outer, houter⟩ := Array.back?_eq_some_iff.1 hf
  have hsplit : s.openLoops.toList = (s.closed frame).openLoops.toList ++ [frame] := by
    simp [closed, houter]
  have em : marks (s.closed frame).ops.toList = marks s.ops.toList ++ [frame.condition] := by
    simp [closed, Op.mark?]
  have et : targets (s.closed frame).ops.toList = targets s.ops.toList ++ [frame.body] := by
    simp [closed, Op.target?]
  have hperm : (marks s.ops.toList ++ s.openLoops.toList.map LoopLabels.condition).Perm
      (marks (s.closed frame).ops.toList ++ (s.closed frame).openLoops.toList.map LoopLabels.condition) := by
    rw [em, hsplit, List.map_append, List.append_assoc]
    exact List.Perm.append_left _ List.perm_append_comm
  have hbody : frame.body ∈ marks s.ops.toList := h.bodies frame (by rw [hsplit]; simp)
  constructor
  · exact hperm.nodup_iff.1 h.nodup
  · exact fun l hl => h.below l (hperm.symm.subset hl)
  · intro frame' hf'
    rw [em]
    exact List.mem_append_left _ (h.bodies frame' (by rw [hsplit]; exact List.mem_append_left _ hf'))
  · intro l hl
    rw [et] at hl
    rcases List.mem_append.1 hl with hl | hl
    · exact hperm.subset (h.marked l hl)
    · rw [List.mem_singleton] at hl
      subst hl
      exact hperm.subset (List.mem_append_left _ hbody)

theorem Passes.fresh {s t : Lowering} {p : List Instruction} (h : Passes s p t) (hs : Fresh s) : Fresh t := by
  induction h with
  | nil => exact hs
  | cons hstep _ ih =>
    apply ih
    rcases step_cases hstep with ⟨op, hop, rfl⟩ | ⟨rfl, rfl⟩ | ⟨frame, rfl, hf, rfl⟩
    · exact fresh_emit hs hop
    · exact fresh_openLoop hs _
    · exact fresh_closed hs hf

end Lowering

/-! ## The code of a block -/

namespace Block

/-- How many loops a block has, those inside loops included. -/
def loops : Block → Nat
  | done => 0
  | increment _ next | moveHead _ next | input next | output next => next.loops
  | loop body next => body.loops + 1 + next.loops

/-- The code of a block, with labels from `n` on. -/
def code : Block → Nat → List Op
  | done, _ => []
  | increment amount next, n => .increment (UInt8.ofInt amount) :: next.code n
  | moveHead offset next, n => .moveHead offset :: next.code n
  | input next, n => .input :: next.code n
  | output next, n => .output :: next.code n
  | loop body next, n =>
    .jump ⟨n⟩ :: .mark ⟨n + 1⟩ :: (body.code (n + 2) ++
      .mark ⟨n⟩ :: .jumpIfNonzero ⟨n + 1⟩ :: next.code (n + 2 + 2 * body.loops))

theorem count_startLoop (b : Block) : b.flatten.count .startLoop = b.loops := by
  induction b with
  | done => rfl
  | increment _ next ih | moveHead _ next ih | input next ih | output next ih => simp [flatten, loops, ih]
  | loop body next ihb ihn => simp [flatten, loops, ihb, ihn]; omega

theorem count_finishLoop (b : Block) : b.flatten.count .finishLoop = b.loops := by
  induction b with
  | done => rfl
  | increment _ next ih | moveHead _ next ih | input next ih | output next ih => simp [flatten, loops, ih]
  | loop body next ihb ihn => simp [flatten, loops, ihb, ihn]; omega

end Block

namespace Lowering

/-- Lowering a block appends its code, and closes what it opens. -/
theorem passes_code (b : Block) (s : Lowering) :
    ∃ t, Passes s b.flatten t ∧ t.openLoops = s.openLoops ∧ t.nextLabel = s.nextLabel + 2 * b.loops ∧
      t.ops.toList = s.ops.toList ++ b.code s.nextLabel := by
  induction b generalizing s with
  | done => exact ⟨s, .nil s, rfl, rfl, by simp [Block.code]⟩
  | increment amount next ih =>
    obtain ⟨t, hp, ho, hl, hc⟩ := ih ((s.announce (.increment amount)).emit (.increment (UInt8.ofInt amount)))
    exact ⟨t, .cons rfl hp, ho, hl, by rw [hc]; simp [emit, announce, Block.code]⟩
  | moveHead offset next ih =>
    obtain ⟨t, hp, ho, hl, hc⟩ := ih ((s.announce (.moveHead offset)).emit (.moveHead offset))
    exact ⟨t, .cons rfl hp, ho, hl, by rw [hc]; simp [emit, announce, Block.code]⟩
  | input next ih =>
    obtain ⟨t, hp, ho, hl, hc⟩ := ih ((s.announce .input).emit .input)
    exact ⟨t, .cons rfl hp, ho, hl, by rw [hc]; simp [emit, announce, Block.code]⟩
  | output next ih =>
    obtain ⟨t, hp, ho, hl, hc⟩ := ih ((s.announce .output).emit .output)
    exact ⟨t, .cons rfl hp, ho, hl, by rw [hc]; simp [emit, announce, Block.code]⟩
  | loop body next ihb ihn =>
    -- The body leaves just the loop open that its start has opened.
    obtain ⟨t, hb, hob, hlb, hcb⟩ := ihb (s.announce .startLoop).openLoop
    have hf : t.openLoops.back? = some ⟨⟨s.nextLabel⟩, ⟨s.nextLabel + 1⟩⟩ := by
      simp [hob, announce, openLoop]
    obtain ⟨u, hn, hon, hln, hcn⟩ := ihn (t.closed ⟨⟨s.nextLabel⟩, ⟨s.nextLabel + 1⟩⟩)
    have hlabel : t.nextLabel = s.nextLabel + 2 + 2 * body.loops := hlb
    have hclosed : (t.closed ⟨⟨s.nextLabel⟩, ⟨s.nextLabel + 1⟩⟩).nextLabel = t.nextLabel := rfl
    refine ⟨u, .cons rfl (hb.append (.cons (step_finishLoop hf) hn)), ?_, ?_, ?_⟩
    · rw [hon]
      simp [closed, hob, announce, openLoop]
    · rw [hln, hclosed, hlabel, Block.loops]
      omega
    · rw [hcn, hclosed, hlabel]
      simp [closed, hcb, announce, openLoop, Block.code]

theorem passes_flatten (b : Block) (s : Lowering) :
    ∃ t, Passes s b.flatten t ∧ t.openLoops = s.openLoops := by
  obtain ⟨t, hp, ho, -⟩ := passes_code b s
  exact ⟨t, hp, ho⟩

end Lowering

/-! ## Where things stand in the code -/

/-- `code` is the linear code of a program for a tape of the given length. -/
def IsCode (tapeLength : Nat) (program : List Instruction) (code : List Op) : Prop :=
  ∃ s, Lowering.Passes (.start tapeLength) program s ∧ s.openLoops = #[] ∧ code = s.ops.toList ++ [.halt]

theorem lower_eq {tapeLength : Nat} (hN : 0 < tapeLength) {program : List Instruction} {s : Lowering}
    (h : Lowering.Passes (.start tapeLength) program s) (ho : s.openLoops = #[]) :
    (lower tapeLength program).result = .ok (s.ops.toList ++ [.halt]) := by
  have he : s.openLoops.isEmpty = true := by rw [ho]; rfl
  rw [lower, if_neg (by omega), h.run, if_pos he]
  simp

theorem lower_flatten {tapeLength : Nat} (hN : 0 < tapeLength) (b : Block) :
    ∃ code, (lower tapeLength b.flatten).result = .ok code ∧ IsCode tapeLength b.flatten code := by
  obtain ⟨s, hs, ho⟩ := Lowering.passes_flatten b (.start tapeLength)
  exact ⟨s.ops.toList ++ [.halt], lower_eq hN hs ho, s, hs, ho, rfl⟩

theorem lower_block {tapeLength : Nat} (hN : 0 < tapeLength) (b : Block) :
    (lower tapeLength b.flatten).result = .ok (.allocate tapeLength :: (b.code 0 ++ [.halt])) := by
  obtain ⟨s, hs, ho, -, hcode⟩ := Lowering.passes_code b (.start tapeLength)
  rw [lower_eq hN hs ho, hcode]
  rfl

namespace IsCode

variable {tapeLength : Nat} {program : List Instruction} {code : List Op}

theorem labelled (h : IsCode tapeLength program code) : Labelled code := by
  obtain ⟨s, hs, ho, rfl⟩ := h
  have hf := hs.fresh (Lowering.fresh_start tapeLength)
  constructor
  · simpa [ho, Op.mark?] using hf.nodup
  · intro l hl
    simpa [ho, Op.mark?] using hf.marked l (by simpa [Op.target?] using hl)

theorem first (h : IsCode tapeLength program code) : code[0]? = some (.allocate tapeLength) := by
  obtain ⟨s, hs, -, rfl⟩ := h
  have h0 : s.ops.toList[0]? = some (.allocate tapeLength) := hs.keeps rfl
  rw [List.getElem?_append_left (List.getElem?_eq_some_iff.1 h0).1, h0]

theorem length_eq (h : IsCode tapeLength program code) : code.length = codeLength program + 2 := by
  obtain ⟨s, hs, -, rfl⟩ := h
  obtain ⟨new, e, hlen⟩ := hs.grows
  simp only [e, List.length_append, hlen, List.length_singleton]
  have : (Lowering.start tapeLength).ops.toList.length = 1 := rfl
  omega

theorem last (h : IsCode tapeLength program code) : code[1 + codeLength program]? = some .halt := by
  have hlen := h.length_eq
  obtain ⟨s, hs, -, rfl⟩ := h
  simp only [List.length_append, List.length_singleton] at hlen
  rw [List.getElem?_append_right (by omega), show 1 + codeLength program - s.ops.toList.length = 0 by omega]
  rfl

/-- What a beginning of the program is lowered to is a beginning of the code. -/
theorem written {p q : List Instruction} (h : IsCode tapeLength (p ++ q) code) :
    ∃ s, Lowering.Passes (.start tapeLength) p s ∧ s.ops.toList.length = 1 + codeLength p ∧
      ∀ (k : Nat) (op : Op), s.ops.toList[k]? = some op → code[k]? = some op := by
  obtain ⟨t, ht, -, rfl⟩ := h
  obtain ⟨s, hs, hrest⟩ := ht.split
  obtain ⟨new, e, hlen⟩ := hs.grows
  refine ⟨s, hs, by rw [e, List.length_append, hlen]; rfl, fun k op hk => ?_⟩
  have := hrest.keeps hk
  rw [List.getElem?_append_left (List.getElem?_eq_some_iff.1 this).1, this]

theorem straight {before after : List Instruction} {i : Instruction} {op : Op}
    (h : IsCode tapeLength (before ++ i :: after) code) (hop : i.op? = some op) :
    code[1 + codeLength before]? = some op := by
  rw [List.append_cons] at h
  obtain ⟨t, ht, hlen, hcode⟩ := h.written
  obtain ⟨s, hs, hi⟩ := ht.split
  obtain ⟨new, e, hnew⟩ := hs.grows
  have hslen : s.ops.toList.length = 1 + codeLength before := by rw [e, List.length_append, hnew]; rfl
  cases hi with
  | cons hstep hnil =>
    cases hnil
    apply hcode
    rcases Lowering.step_cases hstep with ⟨op', hop', rfl⟩ | ⟨rfl, -⟩ | ⟨frame, rfl, -⟩
    · rw [hop] at hop'
      cases hop'
      simp only [Lowering.announce, Lowering.emit, Array.toList_push, ← hslen]
      simp
    · cases hop
    · cases hop

/-- The two ends of a loop jump to each other. -/
theorem loop {before after : List Instruction} {body : Block}
    (h : IsCode tapeLength (withLoop before body after) code) :
    ∃ condition entry, code[1 + codeLength before]? = some (.jump condition) ∧
      code[2 + codeLength before]? = some (.mark entry) ∧
      code[3 + codeLength before + codeLength body.flatten]? = some (.mark condition) ∧
      code[4 + codeLength before + codeLength body.flatten]? = some (.jumpIfNonzero entry) := by
  have e : withLoop before body after =
      (before ++ .startLoop :: (body.flatten ++ [.finishLoop])) ++ after := by simp [withLoop]
  rw [e] at h
  obtain ⟨w, hw, hlen, hcode⟩ := h.written
  obtain ⟨s, hs, hrest⟩ := hw.split
  obtain ⟨start, es, hstart⟩ := hs.grows
  have hslen : s.ops.toList.length = 1 + codeLength before := by rw [es, List.length_append, hstart]; rfl
  cases hrest with
  | cons hopen hrest =>
    cases hopen
    obtain ⟨u, hu, hclose⟩ := hrest.split
    obtain ⟨u', hu', hou⟩ := Lowering.passes_flatten body (s.announce .startLoop).openLoop
    cases hu.unique hu'
    obtain ⟨new, eu, hnew⟩ := hu.grows
    have hf : u.openLoops.back? = some ⟨⟨s.nextLabel⟩, ⟨s.nextLabel + 1⟩⟩ := by
      simp [hou, Lowering.announce, Lowering.openLoop]
    cases hclose with
    | cons hclose hnil =>
      rw [Lowering.step_finishLoop hf] at hclose
      cases hclose
      cases hnil
      -- The code up to the end of the loop, piece by piece.
      have ew : (u.closed ⟨⟨s.nextLabel⟩, ⟨s.nextLabel + 1⟩⟩).ops.toList = s.ops.toList ++
          .jump ⟨s.nextLabel⟩ :: .mark ⟨s.nextLabel + 1⟩ ::
            (new ++ [.mark ⟨s.nextLabel⟩, .jumpIfNonzero ⟨s.nextLabel + 1⟩]) := by
        simp [Lowering.closed, eu, Lowering.announce, Lowering.openLoop]
      rw [ew] at hcode
      refine ⟨⟨s.nextLabel⟩, ⟨s.nextLabel + 1⟩, hcode _ _ ?_, hcode _ _ ?_, hcode _ _ ?_, hcode _ _ ?_⟩
      · rw [List.getElem?_append_right (by omega), show 1 + codeLength before - s.ops.toList.length = 0 by omega]
        rfl
      · rw [List.getElem?_append_right (by omega), show 2 + codeLength before - s.ops.toList.length = 1 by omega]
        rfl
      · rw [List.getElem?_append_right (by omega),
          show 3 + codeLength before + codeLength body.flatten - s.ops.toList.length = new.length + 0 + 2 by omega,
          List.getElem?_cons_succ, List.getElem?_cons_succ, List.getElem?_append_right (by omega)]
        simp
      · rw [List.getElem?_append_right (by omega),
          show 4 + codeLength before + codeLength body.flatten - s.ops.toList.length = new.length + 1 + 2 by omega,
          List.getElem?_cons_succ, List.getElem?_cons_succ, List.getElem?_append_right (by omega)]
        simp

/-- What is no mark and no jump comes from an instruction, or it is one of the two ends of the code. -/
theorem mem (h : IsCode tapeLength program code) {op : Op} (hop : op ∈ code) :
    op = .allocate tapeLength ∨ op = .halt ∨ (∃ i ∈ program, i.op? = some op) ∨ op.mark?.isSome ∨
      op.target?.isSome := by
  obtain ⟨s, hs, -, rfl⟩ := h
  rcases List.mem_append.1 hop with hop | hop
  · rcases hs.mem hop with hmem | hmem
    · exact .inl (by simpa [Lowering.start] using hmem)
    · exact .inr (.inr hmem)
  · exact .inr (.inl (List.mem_singleton.1 hop))

theorem length_of_allocate (h : IsCode tapeLength program code) {n : Nat} (hn : .allocate n ∈ code) :
    n = tapeLength := by
  rcases h.mem hn with he | he | ⟨i, -, hi⟩ | he | he
  · cases he; rfl
  · cases he
  · cases i <;> cases hi
  · cases he
  · cases he

theorem moveHead_mem (h : IsCode tapeLength program code) {offset : Int} (hmem : .moveHead offset ∈ code) :
    .moveHead offset ∈ program := by
  rcases h.mem hmem with he | he | ⟨i, hi, hop⟩ | he | he
  · cases he
  · cases he
  · cases i <;> cases hop
    exact hi
  · cases he
  · cases he

end IsCode

end Brainfuck
