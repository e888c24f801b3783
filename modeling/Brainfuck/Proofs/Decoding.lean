import Brainfuck.Instruction.Agreement
import Brainfuck.Proofs.C.Reading
import Brainfuck.Proofs.Code
import Brainfuck.Proofs.Llvm.Reading
import Brainfuck.Proofs.Llvm.Rows
import Brainfuck.Proofs.Runs
/-!
# What a text says about its program

`texts_eq_iff`: two texts are equal only for the same target, the same tape length and programs that agree, and such
programs run alike. A text is decoded in steps that each lose nothing but what agreeing lists differ in: into lines,
into operations (`Llvm.ops_lines`, `C.ops_lines`), and into instructions with reduced amounts
(`Block.instructionsOfOps_code`).
-/

namespace Brainfuck

/-! ## Reduced amounts -/

namespace Instruction

/-- The amount of an increment becomes a byte. -/
def reduced : Instruction → Instruction
  | increment amount => increment (amount % 256)
  | i => i

theorem agrees_iff {i j : Instruction} : i.Agrees j ↔ i.reduced = j.reduced := by
  cases i <;> cases j <;> simp [Agrees, reduced]

theorem ofInt_emod (amount : Int) : UInt8.ofInt (amount % 256) = UInt8.ofInt amount := by
  apply UInt8.toNat_inj.1
  simp [UInt8.ofInt, Int.emod_emod_of_dvd]

theorem toNat_ofInt (amount : Int) : ((UInt8.ofInt amount).toNat : Int) = amount % 256 := by
  rw [UInt8.ofInt, UInt8.toNat_ofNat']
  omega

end Instruction

theorem agreeing_iff {p q : List Instruction} :
    Agreeing p q ↔ p.map Instruction.reduced = q.map Instruction.reduced := by
  constructor
  · intro h
    apply List.ext_getElem
    · simpa using h.length_eq
    · intro k hp hq
      rw [List.length_map] at hp hq
      rw [List.getElem_map, List.getElem_map]
      exact Instruction.agrees_iff.1 (h.agrees k _ _ (List.getElem?_eq_getElem hp) (List.getElem?_eq_getElem hq))
  · intro h
    refine ⟨by simpa using congrArg List.length h, ?_⟩
    intro k i j hi hj
    have hk := congrArg (fun l => l[k]?) h
    simp only [List.getElem?_map, hi, hj, Option.map_some, Option.some.injEq] at hk
    exact Instruction.agrees_iff.2 hk

/-! ## Lists that agree run alike -/

namespace Interpreter

theorem partnersFrom_reduced (program : List Instruction) (i : Nat) (opened : List Nat) (table : Array Nat) :
    partnersFrom (program.map Instruction.reduced) i opened table = partnersFrom program i opened table := by
  induction program generalizing i opened table with
  | nil => rfl
  | cons instruction rest ih =>
    cases instruction with
    | finishLoop => cases opened <;> simp [Instruction.reduced, partnersFrom, ih]
    | _ => simp [Instruction.reduced, partnersFrom, ih]

theorem loopPartners_reduced (program : List Instruction) :
    loopPartners (program.map Instruction.reduced) = loopPartners program := by
  rw [loopPartners, List.length_map, partnersFrom_reduced, loopPartners]

theorem step_reduced (program : List Instruction) (partners : Array Nat) (pc : Nat) (s : Interpreter) :
    step (program.map Instruction.reduced).toArray partners pc s = step program.toArray partners pc s := by
  unfold step
  rw [List.getElem?_toArray, List.getElem?_toArray, List.getElem?_map]
  cases program[pc]? with
  | none => rfl
  | some i =>
    cases i with
    | increment amount => simp only [Option.map_some, Instruction.reduced, increment, Instruction.ofInt_emod]
    | _ => rfl

theorem run_reduced (program : List Instruction) (fuel : Nat) (s : Interpreter) :
    run (program.map Instruction.reduced) fuel s = run program fuel s := by
  unfold run
  rw [loopPartners_reduced]
  cases loopPartners program with
  | error e => rfl
  | ok partners =>
    have hstep : step (program.map Instruction.reduced).toArray partners = step program.toArray partners :=
      funext₂ (step_reduced program partners)
    simp only [runFrom_eq, hstep]

theorem run_of_agreeing {p q : List Instruction} (h : Agreeing p q) (fuel : Nat) (s : Interpreter) :
    run p fuel s = run q fuel s := by
  rw [← run_reduced p, agreeing_iff.1 h, run_reduced]

end Interpreter

/-! ## From operations to instructions -/

/-- The instruction that an operation stands for. A loop is known by its jumps. -/
def Op.instruction? : Op → Option Instruction
  | .increment amount => some (.increment amount.toNat)
  | .moveHead offset => some (.moveHead offset)
  | .input => some .input
  | .output => some .output
  | .jump _ => some .startLoop
  | .jumpIfNonzero _ => some .finishLoop
  | .allocate _ | .mark _ | .halt => none

/-- The instructions that operations stand for. -/
def instructionsOfOps (code : List Op) : List Instruction := code.filterMap Op.instruction?

@[simp] theorem instructionsOfOps_cons (op : Op) (code : List Op) :
    instructionsOfOps (op :: code) = op.instruction?.toList ++ instructionsOfOps code := by
  cases op <;> rfl

@[simp] theorem instructionsOfOps_append (p q : List Op) :
    instructionsOfOps (p ++ q) = instructionsOfOps p ++ instructionsOfOps q := by
  simp [instructionsOfOps]

namespace Block

theorem instructionsOfOps_code (b : Block) (n : Nat) :
    instructionsOfOps (b.code n) = b.flatten.map Instruction.reduced := by
  induction b generalizing n with
  | done => rfl
  | increment amount next ih =>
    simp [code, flatten, Op.instruction?, Instruction.reduced, Instruction.toNat_ofInt, ih]
  | moveHead offset next ih | input next ih | output next ih =>
    simp [code, flatten, Op.instruction?, Instruction.reduced, ih]
  | loop body next ihb ihn => simp [code, flatten, Op.instruction?, Instruction.reduced, ihb, ihn]

/-- The block with reduced amounts. -/
def reduced : Block → Block
  | done => done
  | increment amount next => increment (amount % 256) next.reduced
  | moveHead offset next => moveHead offset next.reduced
  | input next => input next.reduced
  | output next => output next.reduced
  | loop body next => loop body.reduced next.reduced

theorem flatten_reduced (b : Block) : b.reduced.flatten = b.flatten.map Instruction.reduced := by
  induction b with
  | done => rfl
  | increment _ next ih | moveHead _ next ih | input next ih | output next ih =>
    simp [reduced, flatten, Instruction.reduced, ih]
  | loop body next ihb ihn => simp [reduced, flatten, Instruction.reduced, ihb, ihn]

theorem loops_reduced (b : Block) : b.reduced.loops = b.loops := by
  induction b with
  | done => rfl
  | increment _ next ih | moveHead _ next ih | input next ih | output next ih => exact ih
  | loop body next ihb ihn => rw [reduced, loops, loops, ihb, ihn]

theorem code_reduced (b : Block) (n : Nat) : b.reduced.code n = b.code n := by
  induction b generalizing n with
  | done => rfl
  | increment amount next ih => rw [reduced, code, code, ih, Instruction.ofInt_emod]
  | moveHead offset next ih | input next ih | output next ih => rw [reduced, code, code, ih]
  | loop body next ihb ihn => rw [reduced, code, code, ihb, ihn, loops_reduced]

/-- Code says just as much as a list with reduced amounts. -/
theorem code_eq_iff {b c : Block} {n : Nat} : b.code n = c.code n ↔ Agreeing b.flatten c.flatten := by
  rw [agreeing_iff]
  constructor
  · intro h
    rw [← instructionsOfOps_code b n, h, instructionsOfOps_code]
  · intro h
    rw [← flatten_reduced, ← flatten_reduced] at h
    rw [← code_reduced b, flatten_injective h, code_reduced]

end Block

/-! ## From LLVM lines to operations -/

namespace Llvm

/-- The operation that a line stands for, in front of the next line. A branch to the block right behind it only
falls through; every other branch is a jump. -/
def Line.op? : Line → Option Line → Option Op
  | allocateTape length, _ => some (.allocate length)
  | addByte _ _ right, _ => some (.increment (UInt8.ofInt right))
  | addHead _ _ right, _ => some (.moveHead right)
  | getchar _, _ => some .input
  | putchar _, _ => some .output
  | branch (.label l), next => if next = some (.block (.label l)) then none else some (.jump l)
  | block (.label l), _ => some (.mark l)
  | branchIf _ (.label l) _, _ => some (.jumpIfNonzero l)
  | returnZero, _ => some .halt
  | _, _ => none

/-- The operations that lines were written from. -/
def ops : List Line → List Op
  | [] => []
  | line :: rest => (line.op? rest.head?).toList ++ ops rest

/-- No jump goes to the mark right behind it. -/
def JumpsAway (code : List Op) : Prop :=
  code.IsChain fun op next => ∀ l, op = .jump l → next ≠ .mark l

theorem jumpsAway_cons {op : Op} {code : List Op} :
    JumpsAway (op :: code) ↔ (∀ l, op = .jump l → code.head? ≠ some (.mark l)) ∧ JumpsAway code := by
  unfold JumpsAway
  rw [List.isChain_cons]
  apply and_congr_left'
  constructor
  · intro h l hop hhead
    exact h _ hhead l hop rfl
  · intro h next hnext l hop he
    exact h l hop (he ▸ hnext)

/-- A jump to the mark right behind it is written like the mark alone. -/
theorem written_jump_mark {s : Listing} (h : s.terminated = false) (l : Label) (code : List Op) :
    written s (.jump l :: .mark l :: code) = written s (.mark l :: code) := by
  obtain ⟨lines, nextValue, nextBlock, _ | _⟩ := s
  · rfl
  · cases h

/-- Lines begin with a block only where their code begins with its mark. -/
theorem mark_of_head {s : Listing} {code : List Op} {l : Label}
    (h : (written s code).head? = some (.block (.label l))) : code.head? = some (.mark l) := by
  cases code with
  | nil => cases h
  | cons op code =>
    cases op with
    | mark l' =>
      rw [written, row, control, List.nil_append] at h
      split at h
      · cases h
        rfl
      · cases h
    | _ => cases h

/-- The lines of one operation in front of others. -/
theorem ops_op (s : Listing) {op : Op} {code : List Op} (h : ∀ l, op = .jump l → code.head? ≠ some (.mark l)) :
    ops (row s.nextValue op ++ (control s op ++ written (s.op op) code)) = op :: ops (written (s.op op) code) := by
  cases op with
  | jump l =>
    have hnext : (written (s.op (.jump l)) code).head? ≠ some (.block (.label l)) := by
      intro hhead
      exact h l rfl (mark_of_head hhead)
    simp [row, control, ops, Line.op?, hnext]
  | mark l => cases ht : s.terminated <;> simp [row, control, ops, Line.op?, ht]
  | increment amount => simp [row, control, ops, Line.op?, ofInt_toInt8]
  | _ => simp [row, control, ops, Line.op?]

theorem ops_written (s : Listing) {code : List Op} (h : JumpsAway code) : ops (written s code) = code := by
  induction code generalizing s with
  | nil => rfl
  | cons op code ih =>
    obtain ⟨hnext, hrest⟩ := jumpsAway_cons.1 h
    rw [written, ops_op s hnext, ih _ hrest]

theorem ops_lines {code : List Op} (h : JumpsAway code) : ops (lines code) = code := by
  rw [lines_eq_written, ops_written _ h]

/-- A loop jumps to the mark of its condition, and right behind the jump stands the mark of its body. -/
theorem jumpsAway_code (b : Brainfuck.Block) (n : Nat) {more : List Op} (h : JumpsAway more) :
    JumpsAway (b.code n ++ more) := by
  induction b generalizing n more with
  | done => exact h
  | increment amount next ih => exact jumpsAway_cons.2 ⟨by simp, ih n h⟩
  | moveHead offset next ih | input next ih | output next ih => exact jumpsAway_cons.2 ⟨by simp, ih n h⟩
  | loop body next ihb ihn =>
    simp only [Brainfuck.Block.code, List.cons_append, List.append_assoc]
    refine jumpsAway_cons.2 ⟨by simp, ?_⟩
    refine jumpsAway_cons.2 ⟨by simp, ?_⟩
    apply ihb
    refine jumpsAway_cons.2 ⟨by simp, ?_⟩
    exact jumpsAway_cons.2 ⟨by simp, ihn _ h⟩

end Llvm

/-! ## From C lines to operations -/

namespace C

/-- The operation that a line stands for. -/
def Line.op? : Line → Option Op
  | allocateTape length => some (.allocate length)
  | addToCell amount => some (.increment amount)
  | addToHead offset => some (.moveHead offset)
  | readCell => some .input
  | writeCell => some .output
  | goto l => some (.jump l)
  | label l => some (.mark l)
  | gotoIfNonzero l => some (.jumpIfNonzero l)
  | returnZero => some .halt
  | clearHead | freeTape => none

theorem ops_lines (code : List Op) : (lines code).filterMap Line.op? = code := by
  induction code with
  | nil => rfl
  | cons op code ih =>
    have hop : (opLines op).filterMap Line.op? = [op] := by cases op <;> rfl
    rw [lines, List.flatMap_cons, List.filterMap_append, hop]
    exact congrArg (op :: ·) ih

end C

/-! ## From texts to programs -/

theorem head?_append {start : String} {c : Char} (h : start.toList.head? = some c) (rest : String) :
    (start ++ rest).toList.head? = some c := by
  rw [String.toList_append, List.head?_append, h]
  rfl

theorem Llvm.head?_text (code : List Op) : (Llvm.text code).toList.head? = some ';' := by
  unfold Llvm.text Llvm.header
  rw [foldl_render Llvm.render_eq]
  simp only [String.append_assoc]
  exact head?_append (by decide) _

theorem C.head?_text (code : List Op) : (C.text code).toList.head? = some '#' := by
  unfold C.text C.header
  rw [foldl_render C.render_eq]
  simp only [String.append_assoc]
  exact head?_append (by decide) _

theorem llvm_text_ne (code code' : List Op) : Llvm.text code ≠ C.text code' := by
  intro h
  have hhead := congrArg (fun text => text.toList.head?) h
  simp only [Llvm.head?_text, C.head?_text] at hhead
  cases hhead

/-- The code of a block between the allocation of its tape and the end of the program. -/
def programCode (tapeLength : Nat) (b : Block) : List Op := .allocate tapeLength :: (b.code 0 ++ [.halt])

theorem programCode_injective {N M : Nat} {b c : Block} (h : programCode N b = programCode M c) :
    N = M ∧ b.code 0 = c.code 0 := by
  simpa [programCode] using h

theorem jumpsAway_programCode (N : Nat) (b : Block) : Llvm.JumpsAway (programCode N b) := by
  apply Llvm.jumpsAway_cons.2
  constructor
  · simp
  · exact Llvm.jumpsAway_code b 0 (List.isChain_singleton _)

theorem ofLinear_text_inj {K J : Target} {code code' : List Op} (h : Llvm.JumpsAway code)
    (h' : Llvm.JumpsAway code') (ht : (Code.ofLinear K code).text = (Code.ofLinear J code').text) :
    K = J ∧ code = code' := by
  cases K <;> cases J
  · have hlines := congrArg Llvm.read? ht
    simp only [Code.ofLinear, Llvm.read?_text, Option.some.injEq] at hlines
    have hops := congrArg Llvm.ops hlines
    rw [Llvm.ops_lines h, Llvm.ops_lines h'] at hops
    exact ⟨rfl, hops⟩
  · exact absurd ht (llvm_text_ne code code')
  · exact absurd ht.symm (llvm_text_ne code' code)
  · have hlines := congrArg C.read? ht
    simp only [Code.ofLinear, C.read?_text, Option.some.injEq] at hlines
    have hops := congrArg (List.filterMap C.Line.op?) hlines
    rw [C.ops_lines, C.ops_lines] at hops
    exact ⟨rfl, hops⟩

theorem texts_eq_iff :
    (∀ {p q : List Instruction}, Balanced p → Balanced q → ∀ {N M : Nat}, 0 < N → 0 < M → ∀ K J : Target,
      ∃ code code' : Code, (Code.ofProgram K N p).result = .ok code ∧ (Code.ofProgram J M q).result = .ok code' ∧
        (code.text = code'.text ↔ K = J ∧ N = M ∧ Agreeing p q)) ∧
    ∀ {p q : List Instruction}, Agreeing p q → ∀ (fuel : Nat) (s : Interpreter),
      Interpreter.run p fuel s = Interpreter.run q fuel s := by
  refine ⟨?_, fun h => Interpreter.run_of_agreeing h⟩
  intro p q hp hq N M hN hM K J
  obtain ⟨b, rfl⟩ := (balanced_iff_flatten p).1 hp
  obtain ⟨c, rfl⟩ := (balanced_iff_flatten q).1 hq
  refine ⟨_, _, Code.ofProgram_result (lower_block hN b) K, Code.ofProgram_result (lower_block hM c) J, ?_⟩
  constructor
  · intro h
    obtain ⟨hKJ, hcode⟩ := ofLinear_text_inj (jumpsAway_programCode N b) (jumpsAway_programCode M c) h
    obtain ⟨hNM, hcode⟩ := programCode_injective hcode
    exact ⟨hKJ, hNM, Block.code_eq_iff.1 hcode⟩
  · rintro ⟨rfl, rfl, h⟩
    rw [Block.code_eq_iff.2 h]

/-- 3 and 259 are the same amount, -1 and 255 too. -/
theorem texts_eq_iff_wrapped :
    let p : List Instruction := [.increment 3, .startLoop, .moveHead 1, .increment (-1), .finishLoop]
    let q : List Instruction := [.increment 259, .startLoop, .moveHead 1, .increment 255, .finishLoop]
    Balanced p ∧ Balanced q ∧ Agreeing p q ∧
      (∃ code code' : Code, (Code.ofProgram .llvm 5 p).result = .ok code ∧
        (Code.ofProgram .llvm 5 q).result = .ok code' ∧ code.text = code'.text) ∧
      (∃ code code' : Code, (Code.ofProgram .llvm 5 p).result = .ok code ∧
        (Code.ofProgram .llvm 6 q).result = .ok code' ∧ code.text ≠ code'.text) ∧
      Interpreter.run p 20 (.create 5 none none) = Interpreter.run q 20 (.create 5 none none) := by
  intro p q
  have hp : Balanced p := by decide
  have hq : Balanced q := by decide
  have h : Agreeing p q := agreeing_iff.2 (by decide)
  obtain ⟨code, code', hcode, hcode', heq⟩ :=
    texts_eq_iff.1 hp hq (by decide : 0 < 5) (by decide : 0 < 5) .llvm .llvm
  obtain ⟨long, long', hlong, hlong', hne⟩ :=
    texts_eq_iff.1 hp hq (by decide : 0 < 5) (by decide : 0 < 6) .llvm .llvm
  refine ⟨hp, hq, h, ⟨code, code', hcode, hcode', heq.2 ⟨rfl, rfl, h⟩⟩, ⟨long, long', hlong, hlong', ?_⟩,
    texts_eq_iff.2 h 20 (.create 5 none none)⟩
  intro htext
  obtain ⟨-, hlength, -⟩ := hne.1 htext
  cases hlength

end Brainfuck
