import Brainfuck.Code.Llvm.Graph
import Brainfuck.Proofs.Code
import Brainfuck.Proofs.Llvm.Listing
import Brainfuck.Proofs.Llvm.Reading
/-!
# The control-flow graph is well-formed

`shaped_lines`: the lines of a program stand in the right order, every block behind the branch that ends the one
before. What they open and where they branch to is read off the tree of the program (`opens`, `branches`), and
`text_wellFormed` is put together from both.
-/

namespace Brainfuck.Llvm

/-! ## Lines in the right order -/

/-- Does the line neither open a block nor end one? -/
def Line.isPlain : Line → Bool
  | block _ | branch _ | branchIf .. | returnZero => false
  | _ => true

/-- Behind the name of a block, the lines open the blocks `opened` and have the edges `es`. A block is left by a
branch in front of the next one, and the last block by the return. -/
inductive Shaped : String → List Line → List Block → List (String × Block) → Prop
  | returned (name : String) : Shaped name [.returnZero] [] []
  | plain {name line ls opened es} : line.isPlain = true → Shaped name ls opened es →
      Shaped name (line :: ls) opened es
  | branch {name target b ls opened es} : Shaped b.name ls opened es →
      Shaped name (.branch target :: .block b :: ls) (b :: opened) ((name, target) :: es)
  | branchIf {name condition target otherwise b ls opened es} : Shaped b.name ls opened es →
      Shaped name (.branchIf condition target otherwise :: .block b :: ls) (b :: opened)
        ((name, target) :: (name, otherwise) :: es)

theorem cut_plain {line : Line} (h : line.isPlain = true) (ls : List Line) :
    cut (line :: ls) = (line :: (cut ls).1, (cut ls).2) := by
  cases line <;> first | rfl | cases h

theorem isTerminator_plain {line : Line} (h : line.isPlain = true) : line.isTerminator = false := by
  cases line <;> first | rfl | cases h

theorem targets_plain {line : Line} (h : line.isPlain = true) : line.targets = [] := by
  cases line <;> first | rfl | cases h

namespace Shaped

variable {name : String} {ls : List Line} {opened : List Block} {es : List (String × Block)}

theorem names (h : Shaped name ls opened es) :
    (blocksFrom name ls).map BasicBlock.name = name :: opened.map Block.name := by
  induction h with
  | returned => rfl
  | plain hp _ ih => simpa [blocksFrom, cut_plain hp] using ih
  | branch _ ih | branchIf _ ih => exact congrArg (_ :: ·) ih

theorem edges_eq (h : Shaped name ls opened es) :
    edges (blocksFrom name ls) = es.map fun e => (e.1, e.2.name) := by
  induction h with
  | returned => rfl
  | plain hp _ ih => simpa [edges, blocksFrom, cut_plain hp, targets_plain hp] using ih
  | branch _ ih => exact congrArg (_ :: ·) ih
  | branchIf _ ih => exact congrArg (_ :: _ :: ·) ih

theorem closed (h : Shaped name ls opened es) : ∀ b ∈ blocksFrom name ls, b.Closed := by
  induction h with
  | returned name =>
    intro b hb
    obtain rfl := List.mem_singleton.1 hb
    exact ⟨[], .returnZero, rfl, rfl, by simp⟩
  | @plain _ line ls _ _ hp _ ih =>
    intro b hb
    rw [blocksFrom, cut_plain hp] at hb
    rcases List.mem_cons.1 hb with rfl | hb
    · -- The line stands in front of the lines that close its block.
      obtain ⟨body, last, hlines, hlast, hbody⟩ := ih _ List.mem_cons_self
      refine ⟨line :: body, last, congrArg (line :: ·) hlines, hlast, ?_⟩
      intro line' hline'
      rcases List.mem_cons.1 hline' with rfl | hline'
      · exact isTerminator_plain hp
      · exact hbody line' hline'
    · exact ih b (List.mem_cons_of_mem _ hb)
  | branch _ ih | branchIf _ ih =>
    intro b hb
    rcases List.mem_cons.1 hb with rfl | hb
    · exact ⟨[], _, rfl, rfl, by simp⟩
    · exact ih b hb

theorem returns (h : Shaped name ls opened es) : ∃ front last, blocksFrom name ls = front ++ [last] ∧
    last.lines.getLast? = some .returnZero ∧
      ((blocksFrom name ls).flatMap BasicBlock.lines).count .returnZero = 1 := by
  induction h with
  | returned name => exact ⟨[], ⟨name, [.returnZero]⟩, rfl, rfl, rfl⟩
  | @plain name line ls _ _ hp _ ih =>
    -- The line joins the first block, which may be the last one too.
    obtain ⟨front, last, hblocks, hlast, hcount⟩ := ih
    have hline : line ≠ .returnZero := fun he => by
      rw [he] at hp
      cases hp
    have hcount' : ((blocksFrom name (line :: ls)).flatMap BasicBlock.lines).count .returnZero = 1 := by
      simpa [blocksFrom, cut_plain hp, List.count_cons, hline] using hcount
    rw [blocksFrom] at hblocks
    rcases front with _ | ⟨first, front⟩
    · obtain ⟨rfl, hrest⟩ := List.cons.inj hblocks
      refine ⟨[], ⟨name, line :: (cut ls).1⟩, ?_, ?_, hcount'⟩
      · rw [blocksFrom, cut_plain hp, hrest]
        rfl
      · have hlast' : (cut ls).1.getLast? = some .returnZero := hlast
        rw [List.getLast?_cons, hlast']
        rfl
    · obtain ⟨-, hrest⟩ := List.cons.inj hblocks
      refine ⟨⟨name, line :: (cut ls).1⟩ :: front, last, ?_, hlast, hcount'⟩
      rw [blocksFrom, cut_plain hp, hrest]
      rfl
  | @branch name target b ls _ _ _ ih =>
    obtain ⟨front, last, hblocks, hlast, hcount⟩ := ih
    refine ⟨⟨name, [.branch target]⟩ :: front, last, congrArg (_ :: ·) hblocks, hlast, ?_⟩
    exact (List.count_cons_of_ne (by simp)).trans hcount
  | @branchIf name condition target otherwise b ls _ _ _ ih =>
    obtain ⟨front, last, hblocks, hlast, hcount⟩ := ih
    refine ⟨⟨name, [.branchIf condition target otherwise]⟩ :: front, last, congrArg (_ :: ·) hblocks, hlast, ?_⟩
    exact (List.count_cons_of_ne (by simp)).trans hcount

theorem row {name : String} (op : Op) (v : Value) (h : Shaped name ls opened es) :
    Shaped name (Llvm.row v op ++ ls) opened es := by
  have hplain : ∀ line ∈ Llvm.row v op, line.isPlain = true := by
    cases op <;> simp [Llvm.row, Line.isPlain]
  generalize Llvm.row v op = lines at hplain ⊢
  induction lines with
  | nil => exact h
  | cons line lines ih =>
    exact .plain (hplain line List.mem_cons_self) (ih fun l hl => hplain l (List.mem_cons_of_mem _ hl))

end Shaped

/-! ## The block that is being written -/

theorem blockAfter_append (name : String) (n m : Nat) (p q : List Instruction) :
    blockAfter name n m (p ++ q) =
      blockAfter (blockAfter name n m p) (n + 2 * p.count .startLoop) (m + p.count .finishLoop) q := by
  induction p generalizing name n m with
  | nil => rfl
  | cons i p ih =>
    cases i with
    | startLoop =>
      rw [List.cons_append, blockAfter, ih, blockAfter]
      simp [Nat.mul_add, Nat.add_assoc, Nat.add_comm 2]
    | finishLoop =>
      rw [List.cons_append, blockAfter, ih, blockAfter]
      simp [Nat.add_assoc, Nat.add_comm 1]
    | _ => simpa [blockAfter] using ih name n m

/-- Behind a loop, its two labels and those of its body have been used, and so have the ends. -/
theorem blockAfter_loop (name : String) (n m : Nat) (body : Brainfuck.Block) (p : List Instruction) :
    blockAfter name n m (.startLoop :: (body.flatten ++ .finishLoop :: p)) =
      blockAfter (loopEndName (m + body.loops)) (n + 2 + 2 * body.loops) (m + body.loops + 1) p := by
  rw [blockAfter, blockAfter_append, body.count_startLoop, body.count_finishLoop, blockAfter]

/-! ## The blocks and edges of a tree -/

/-- The blocks that are opened for a tree, with labels from `n` on and ends of loops from `m` on. -/
def opens : Brainfuck.Block → Nat → Nat → List Block
  | .done, _, _ => []
  | .increment _ next, n, m | .moveHead _ next, n, m | .input next, n, m | .output next, n, m => opens next n m
  | .loop body next, n, m =>
    .label ⟨n + 1⟩ :: (opens body (n + 2) m ++ .label ⟨n⟩ :: .loopEnd (m + body.loops) ::
      opens next (n + 2 + 2 * body.loops) (m + body.loops + 1))

/-- The edges of a tree that begins in the block of the given name. -/
def branches : Brainfuck.Block → String → Nat → Nat → List (String × Block)
  | .done, _, _, _ => []
  | .increment _ next, name, n, m | .moveHead _ next, name, n, m | .input next, name, n, m
  | .output next, name, n, m => branches next name n m
  | .loop body next, name, n, m =>
    (name, .label ⟨n⟩) :: (branches body (labelName (n + 1)) (n + 2) m ++
      (blockAfter (labelName (n + 1)) (n + 2) m body.flatten, .label ⟨n⟩) ::
      (labelName n, .label ⟨n + 1⟩) :: (labelName n, .loopEnd (m + body.loops)) ::
      branches next (loopEndName (m + body.loops)) (n + 2 + 2 * body.loops) (m + body.loops + 1))

theorem nextBlock_of_computes {op : Op} (h : computes op = true) (s : Listing) :
    (s.op op).nextBlock = s.nextBlock := by
  cases op <;> first | rfl | cases h

/-- An operation that computes keeps what is said of the code behind it. -/
theorem shaped_computes {op : Op} (h : computes op = true) {name : String} {s : Listing} {code : List Op}
    {opened : List Block} {es : List (String × Block)} (hcode : Shaped name (written (s.op op) code) opened es) :
    Shaped name (written s (op :: code)) opened es := by
  rw [written, control_of_computes h]
  exact .row op _ hcode

theorem shaped_start {name : String} {s : Listing} {condition entry : Label} {code : List Op}
    {opened : List Block} {es : List (String × Block)}
    (h : Shaped (Block.label entry).name (written ((s.op (.jump condition)).op (.mark entry)) code) opened es) :
    Shaped name (written s (.jump condition :: .mark entry :: code)) (.label entry :: opened)
      ((name, .label condition) :: es) :=
  .branch h

/-- A block that is not ended falls into the condition, which leads back to the body or behind the loop. -/
theorem shaped_finish {name : String} {s : Listing} {m : Nat} {condition entry : Label} {code : List Op}
    {opened : List Block} {es : List (String × Block)} (hs : s.terminated = false) (hm : s.nextBlock = m)
    (h : Shaped (Block.loopEnd m).name (written ((s.op (.mark condition)).op (.jumpIfNonzero entry)) code) opened es) :
    Shaped name (written s (.mark condition :: .jumpIfNonzero entry :: code))
      (.label condition :: .loopEnd m :: opened)
      ((name, .label condition) :: ((Block.label condition).name, .label entry) ::
        ((Block.label condition).name, .loopEnd m) :: es) := by
  have hcontrol : control s (.mark condition) = [.branch (.label condition), .block (.label condition)] := by
    simp [control, hs]
  rw [written, hcontrol]
  refine .branch (.row _ _ ?_)
  rw [control, nextBlock_mark, hm]
  exact .branchIf h

/-- The code of a tree in front of other code, which begins in the block behind the tree. -/
theorem shaped_code (b : Brainfuck.Block) {name : String} {n m : Nat} {s : Listing} {more : List Op}
    {opened : List Block} {es : List (String × Block)} (hs : s.terminated = false) (hm : s.nextBlock = m)
    (hmore : ∀ t : Listing, t.terminated = false → t.nextBlock = m + b.loops →
      Shaped (blockAfter name n m b.flatten) (written t more) opened es) :
    Shaped name (written s (b.code n ++ more)) (opens b n m ++ opened) (branches b name n m ++ es) := by
  -- For any code behind the tree, since behind a body stands the end of its loop.
  induction b generalizing name n m s more opened es with
  | done => exact hmore s hs hm
  | increment amount next ih | moveHead offset next ih | input next ih | output next ih =>
    refine shaped_computes rfl (ih ?_ ?_ hmore)
    · exact (terminated_of_computes rfl s).trans hs
    · exact (nextBlock_of_computes rfl s).trans hm
  | loop body next ihb ihn =>
    rw [Block.code, List.cons_append, List.cons_append, List.append_assoc, List.cons_append, List.cons_append]
    rw [Block.flatten, List.cons_append, blockAfter_loop] at hmore
    simp only [opens, branches, List.cons_append, List.append_assoc]
    refine shaped_start (ihb rfl hm fun t ht htm => ?_)
    refine shaped_finish ht htm (ihn rfl ?_ fun u hu hum => hmore u hu ?_)
    · exact congrArg (· + 1) ((nextBlock_mark t _).trans htm)
    · rw [hum, Block.loops]
      omega

theorem shaped_lines (b : Brainfuck.Block) (tapeLength : Nat) :
    Shaped "entry" (lines (.allocate tapeLength :: (b.code 0 ++ [.halt]))) (opens b 0 0) (branches b "entry" 0 0) := by
  have hhalt (name : String) (t : Listing) : Shaped name (written t [.halt]) [] [] :=
    .row .halt t.nextValue (.returned name)
  have hcode : Shaped "entry" (written (Listing.start.op (.allocate tapeLength)) (b.code 0 ++ [.halt]))
      (opens b 0 0 ++ []) (branches b "entry" 0 0 ++ []) := shaped_code b rfl rfl fun t _ _ => hhalt _ t
  rw [List.append_nil, List.append_nil] at hcode
  rw [lines_eq_written]
  exact shaped_computes rfl hcode

/-! ## Names -/

theorem name_injective : Function.Injective Block.name := by
  intro b c h
  have hread := congrArg block? h
  rw [block?_name, block?_name] at hread
  exact Option.some.inj hread

theorem name_ne_entry (b : Block) : b.name ≠ "entry" := by
  intro h
  have hread := congrArg block? h
  rw [block?_name] at hread
  have hentry : block? "entry" = none := by decide
  rw [hentry] at hread
  cases hread

/-- The labels and the ends of loops that a tree uses, all of them opened. -/
theorem opens_perm (b : Brainfuck.Block) (n m : Nat) :
    (opens b n m).Perm (((List.range' n (2 * b.loops)).map fun id => .label ⟨id⟩) ++
      (List.range' m b.loops).map .loopEnd) := by
  induction b generalizing n m with
  | done => exact .refl _
  | increment _ next ih | moveHead _ next ih | input next ih | output next ih => exact ih n m
  | loop body next ihb ihn =>
    have hlabels : List.range' n (2 * (body.loops + 1 + next.loops)) =
        n :: (n + 1) :: (List.range' (n + 2) (2 * body.loops) ++
          List.range' (n + 2 + 2 * body.loops) (2 * next.loops)) := by
      rw [show 2 * (body.loops + 1 + next.loops) = 2 * body.loops + 2 * next.loops + 1 + 1 by omega]
      rw [List.range'_succ, List.range'_succ, ← List.range'_append_1]
    have hends : List.range' m (body.loops + 1 + next.loops) =
        List.range' m body.loops ++ (m + body.loops) :: List.range' (m + body.loops + 1) next.loops := by
      rw [Nat.add_assoc, Nat.add_comm 1, ← List.range'_append_1, List.range'_succ]
    rw [opens, Block.loops, hlabels, hends]
    refine List.perm_iff_count.2 fun c => ?_
    have hb := (ihb (n + 2) m).count_eq c
    have hn := (ihn (n + 2 + 2 * body.loops) (m + body.loops + 1)).count_eq c
    simp only [List.map_cons, List.map_append, List.count_cons, List.count_append] at hb hn ⊢
    omega

theorem opens_nodup (b : Brainfuck.Block) (n m : Nat) : (opens b n m).Nodup := by
  rw [(opens_perm b n m).nodup_iff, List.nodup_append]
  refine ⟨List.Nodup.map (fun _ _ h => ?_) List.nodup_range', List.Nodup.map (fun _ _ h => ?_) List.nodup_range', ?_⟩
  · cases h; rfl
  · cases h; rfl
  · intro c hc c' hc' hcc
    obtain ⟨id, -, rfl⟩ := List.mem_map.1 hc
    obtain ⟨index, -, rfl⟩ := List.mem_map.1 hc'
    cases hcc

theorem branches_mem (b : Brainfuck.Block) (name : String) (n m : Nat) :
    ∀ e ∈ branches b name n m, e.2 ∈ opens b n m := by
  induction b generalizing name n m with
  | done => exact fun _ he => absurd he List.not_mem_nil
  | increment _ next ih | moveHead _ next ih | input next ih | output next ih => exact ih name n m
  | loop body next ihb ihn =>
    intro e he
    simp only [branches, List.mem_cons, List.mem_append] at he
    simp only [opens, List.mem_cons, List.mem_append]
    rcases he with rfl | he | rfl | rfl | rfl | he
    · exact .inr (.inr (.inl rfl))
    · exact .inr (.inl (ihb _ _ _ e he))
    · exact .inr (.inr (.inl rfl))
    · exact .inl rfl
    · exact .inr (.inr (.inr (.inl rfl)))
    · exact .inr (.inr (.inr (.inr (ihn _ _ _ e he))))

/-! ## Where the edges to a block come from -/

/-- Where edges to a block come from. -/
def origins (es : List (String × Block)) (b : Block) : List String := (es.filter fun e => e.2 = b).map Prod.fst

theorem origins_append (es es' : List (String × Block)) (b : Block) :
    origins (es ++ es') b = origins es b ++ origins es' b := by
  simp [origins]

theorem origins_cons (name : String) (c : Block) (es : List (String × Block)) (b : Block) :
    origins ((name, c) :: es) b = if c = b then name :: origins es b else origins es b := by
  by_cases h : c = b <;> simp [origins, h]

theorem sources_eq {bs : List BasicBlock} {es : List (String × Block)}
    (h : edges bs = es.map fun e => (e.1, e.2.name)) (b : Block) : sources bs b.name = origins es b := by
  rw [sources, h, origins, List.filter_map, List.map_map]
  simp [Function.comp_def, name_injective.eq_iff]

theorem origins_branches_eq_nil {t : Brainfuck.Block} {name : String} {n m : Nat} {b : Block}
    (h : b ∉ opens t n m) : origins (branches t name n m) b = [] := by
  rw [origins, List.map_eq_nil_iff, List.filter_eq_nil_iff]
  intro e he hb
  rw [decide_eq_true_eq] at hb
  exact h (hb ▸ branches_mem t name n m e he)

/-! ## Every loop has its blocks -/

/-- The last block that a tree opens is the one behind it. -/
theorem opens_getLast (t : Brainfuck.Block) (name : String) (n m : Nat) :
    (name :: (opens t n m).map Block.name).getLast? = some (blockAfter name n m t.flatten) := by
  induction t generalizing name n m with
  | done => rfl
  | increment _ next ih | moveHead _ next ih | input next ih | output next ih => exact ih name n m
  | loop body next ihb ihn =>
    have hnext := ihn (loopEndName (m + body.loops)) (n + 2 + 2 * body.loops) (m + body.loops + 1)
    have hsplit : name :: (opens (.loop body next) n m).map Block.name =
        (name :: labelName (n + 1) :: ((opens body (n + 2) m).map Block.name ++ [labelName n])) ++
          loopEndName (m + body.loops) ::
            (opens next (n + 2 + 2 * body.loops) (m + body.loops + 1)).map Block.name := by
      simp [opens, labelName, loopEndName]
    rw [Block.flatten, List.cons_append, blockAfter_loop, ← hnext, hsplit, List.getLast?_append, hnext]
    rfl

/-- The three blocks of a loop among the blocks and edges behind the name of a block. -/
structure LoopAt (name : String) (opened : List Block) (es : List (String × Block))
    (condition entry exit : Block) (before bodyEnd : String) : Prop where
  toCondition : origins es condition = [before, bodyEnd]
  toEntry : origins es entry = [condition.name]
  toExit : origins es exit = [condition.name]
  atStart : [before, entry.name] <:+: name :: opened.map Block.name
  atFinish : [bodyEnd, condition.name, exit.name] <:+: name :: opened.map Block.name

theorem LoopAt.graph {bs : List BasicBlock} {name before bodyEnd : String} {opened : List Block}
    {es : List (String × Block)} {condition entry exit : Block}
    (h : LoopAt name opened es condition entry exit before bodyEnd)
    (hnames : bs.map BasicBlock.name = name :: opened.map Block.name)
    (hedges : edges bs = es.map fun e => (e.1, e.2.name)) :
    LoopGraph bs condition.name entry.name exit.name before bodyEnd where
  toCondition := (sources_eq hedges _).trans h.toCondition
  toEntry := (sources_eq hedges _).trans h.toEntry
  toExit := (sources_eq hedges _).trans h.toExit
  atStart := hnames ▸ h.atStart
  atFinish := hnames ▸ h.atFinish

theorem mem_of_origins {es : List (String × Block)} {b : Block} {first : String} {others : List String}
    (h : origins es b = first :: others) : ∃ e ∈ es, e.2 = b := by
  have hfirst : first ∈ origins es b := h ▸ List.mem_cons_self
  obtain ⟨e, he, -⟩ := List.mem_map.1 hfirst
  obtain ⟨hmem, hb⟩ := List.mem_filter.1 he
  exact ⟨e, hmem, of_decide_eq_true hb⟩

/-- The blocks of a loop stay what they are among more blocks and edges, if none of these edges goes to them. -/
theorem LoopAt.within {name name' before bodyEnd : String} {opened opened' : List Block}
    {es es' : List (String × Block)} {condition entry exit : Block}
    (h : LoopAt name opened es condition entry exit before bodyEnd) (hes : ∀ e ∈ es, e.2 ∈ opened)
    (horigins : ∀ b ∈ opened, origins es' b = origins es b)
    (hnames : name :: opened.map Block.name <:+: name' :: opened'.map Block.name) :
    LoopAt name' opened' es' condition entry exit before bodyEnd := by
  have hkeep {b : Block} {first : String} {others : List String} (hb : origins es b = first :: others) :
      origins es' b = first :: others := by
    obtain ⟨e, he, rfl⟩ := mem_of_origins hb
    rw [horigins _ (hes e he), hb]
  constructor
  · exact hkeep h.toCondition
  · exact hkeep h.toEntry
  · exact hkeep h.toExit
  · exact h.atStart.trans hnames
  · exact h.atFinish.trans hnames

section Loops
variable (body next : Brainfuck.Block) (name : String) (n m : Nat)

/-- A loop, its body and what follows it open different blocks. -/
structure Apart : Prop where
  condition : Block.label ⟨n⟩ ∉ opens body (n + 2) m ∧
    Block.label ⟨n⟩ ∉ opens next (n + 2 + 2 * body.loops) (m + body.loops + 1)
  entry : Block.label ⟨n + 1⟩ ∉ opens body (n + 2) m ∧
    Block.label ⟨n + 1⟩ ∉ opens next (n + 2 + 2 * body.loops) (m + body.loops + 1)
  exit : Block.loopEnd (m + body.loops) ∉ opens body (n + 2) m ∧
    Block.loopEnd (m + body.loops) ∉ opens next (n + 2 + 2 * body.loops) (m + body.loops + 1)
  parts : ∀ b ∈ opens body (n + 2) m, b ∉ opens next (n + 2 + 2 * body.loops) (m + body.loops + 1)

theorem apart : Apart body next n m := by
  have hnodup := opens_nodup (.loop body next) n m
  simp only [opens, List.nodup_cons, List.nodup_append, List.mem_append, List.mem_cons, not_or] at hnodup
  obtain ⟨⟨hentryBody, -, -, hentryNext⟩, -, ⟨⟨-, hcondition⟩, hexit, -⟩, hother⟩ := hnodup
  refine ⟨⟨?_, hcondition⟩, ⟨hentryBody, hentryNext⟩, ⟨?_, hexit⟩, ?_⟩
  · exact fun hb => hother _ hb _ (.inl rfl) rfl
  · exact fun hb => hother _ hb _ (.inr (.inl rfl)) rfl
  · exact fun b hb hnext => hother b hb b (.inr (.inr hnext)) rfl

theorem loopAt_first : LoopAt name (opens (.loop body next) n m) (branches (.loop body next) name n m)
    (.label ⟨n⟩) (.label ⟨n + 1⟩) (.loopEnd (m + body.loops)) name
    (blockAfter (labelName (n + 1)) (n + 2) m body.flatten) := by
  have hapart := apart body next n m
  constructor
  · simp [branches, origins_cons, origins_append, origins_branches_eq_nil hapart.condition.1,
      origins_branches_eq_nil hapart.condition.2]
  · simp [branches, origins_cons, origins_append, origins_branches_eq_nil hapart.entry.1,
      origins_branches_eq_nil hapart.entry.2, labelName]
  · simp [branches, origins_cons, origins_append, origins_branches_eq_nil hapart.exit.1,
      origins_branches_eq_nil hapart.exit.2, labelName]
  · exact ⟨[], _, rfl⟩
  · obtain ⟨front, hfront⟩ := List.getLast?_eq_some_iff.1 (opens_getLast body (labelName (n + 1)) (n + 2) m)
    refine ⟨name :: front, (opens next (n + 2 + 2 * body.loops) (m + body.loops + 1)).map Block.name, ?_⟩
    have hopens : name :: (opens (.loop body next) n m).map Block.name =
        name :: ((labelName (n + 1) :: (opens body (n + 2) m).map Block.name) ++ labelName n ::
          loopEndName (m + body.loops) ::
            (opens next (n + 2 + 2 * body.loops) (m + body.loops + 1)).map Block.name) := by
      simp [opens, labelName, loopEndName]
    rw [hopens, hfront]
    simp [labelName, loopEndName]

variable {body next name n m} {condition entry exit : Block} {before bodyEnd : String}

theorem LoopAt.inBody (h : LoopAt (labelName (n + 1)) (opens body (n + 2) m)
      (branches body (labelName (n + 1)) (n + 2) m) condition entry exit before bodyEnd) :
    LoopAt name (opens (.loop body next) n m) (branches (.loop body next) name n m) condition entry exit
      before bodyEnd := by
  have hapart := apart body next n m
  refine h.within (branches_mem _ _ _ _) (fun b hb => ?_) ?_
  · have hcondition : Block.label ⟨n⟩ ≠ b := fun he => hapart.condition.1 (he ▸ hb)
    have hentry : Block.label ⟨n + 1⟩ ≠ b := fun he => hapart.entry.1 (he ▸ hb)
    have hexit : Block.loopEnd (m + body.loops) ≠ b := fun he => hapart.exit.1 (he ▸ hb)
    simp [branches, origins_cons, origins_append, origins_branches_eq_nil (hapart.parts b hb), hcondition,
      hentry, hexit]
  · exact ⟨[name], _, by rw [opens, List.map_cons, List.map_append]; rfl⟩

theorem LoopAt.inNext (h : LoopAt (loopEndName (m + body.loops))
      (opens next (n + 2 + 2 * body.loops) (m + body.loops + 1))
      (branches next (loopEndName (m + body.loops)) (n + 2 + 2 * body.loops) (m + body.loops + 1))
      condition entry exit before bodyEnd) :
    LoopAt name (opens (.loop body next) n m) (branches (.loop body next) name n m) condition entry exit
      before bodyEnd := by
  have hapart := apart body next n m
  refine h.within (branches_mem _ _ _ _) (fun b hb => ?_) (List.IsSuffix.isInfix ?_)
  · have hcondition : Block.label ⟨n⟩ ≠ b := fun he => hapart.condition.2 (he ▸ hb)
    have hentry : Block.label ⟨n + 1⟩ ≠ b := fun he => hapart.entry.2 (he ▸ hb)
    have hexit : Block.loopEnd (m + body.loops) ≠ b := fun he => hapart.exit.2 (he ▸ hb)
    have hbody : b ∉ opens body (n + 2) m := fun hbody => hapart.parts b hbody hb
    simp [branches, origins_cons, origins_append, origins_branches_eq_nil hbody, hcondition, hentry, hexit]
  · exact ⟨name :: labelName (n + 1) :: ((opens body (n + 2) m).map Block.name ++ [labelName n]), by
      simp [opens, labelName, loopEndName]⟩

end Loops

theorem loopAt_of_withLoop (t : Brainfuck.Block) (name : String) (n m : Nat) {before after : List Instruction}
    {body : Brainfuck.Block} (h : t.flatten = withLoop before body after) :
    LoopAt name (opens t n m) (branches t name n m) (.label ⟨n + 2 * before.count .startLoop⟩)
      (.label ⟨n + 2 * before.count .startLoop + 1⟩) (.loopEnd (m + (before ++ body.flatten).count .finishLoop))
      (blockAfter name n m before) (blockAfter name n m (before ++ .startLoop :: body.flatten)) := by
  induction t generalizing name n m before after with
  | done => cases before <;> cases h
  | increment _ next ih | moveHead _ next ih | input next ih | output next ih =>
    rcases before with _ | ⟨i, before⟩
    · cases h
    · obtain ⟨rfl, hnext⟩ := List.cons.inj h
      simpa [blockAfter, opens, branches] using ih name n m hnext
  | loop inner next ihb ihn =>
    -- The given loop is this one, or it stands in the body of this one or behind it.
    rcases before with _ | ⟨i, before⟩
    · have hends : inner.flatten ++ .finishLoop :: next.flatten = body.flatten ++ .finishLoop :: after :=
        (List.cons.inj h).2
      obtain ⟨rfl, -⟩ := flatten_append_injective (.inr ⟨_, rfl⟩) (.inr ⟨_, rfl⟩) hends
      simpa [blockAfter, inner.count_finishLoop] using loopAt_first inner next name n m
    · obtain ⟨rfl, hbehind⟩ := List.cons.inj h
      rcases withLoop_eq_append hbehind.symm with ⟨after', hinner, -⟩ | ⟨before, rfl, hnext⟩
      · have hstarts : n + 2 * (Instruction.startLoop :: before).count .startLoop =
            n + 2 + 2 * before.count .startLoop := by
          rw [List.count_cons_self]
          omega
        rw [hstarts]
        simpa [blockAfter] using (ihb (labelName (n + 1)) (n + 2) m hinner).inBody
      · have hstarts : n + 2 * (Instruction.startLoop :: (inner.flatten ++ .finishLoop :: before)).count .startLoop =
            n + 2 + 2 * inner.loops + 2 * before.count .startLoop := by
          simp [inner.count_startLoop]
          omega
        have hfinishes : m + (Instruction.startLoop :: (inner.flatten ++ .finishLoop :: before) ++
            body.flatten).count .finishLoop = m + inner.loops + 1 + (before ++ body.flatten).count .finishLoop := by
          simp [inner.count_finishLoop]
          omega
        rw [hstarts, hfinishes, blockAfter_loop, List.cons_append, List.append_assoc, List.cons_append,
          blockAfter_loop]
        exact (ihn _ _ _ hnext).inNext

/-! ## The text -/

theorem blockNames_eq (loops : Nat) : blockNames loops =
    "entry" :: (((List.range' 0 (2 * loops)).map fun id => Block.label ⟨id⟩) ++
      (List.range' 0 loops).map Block.loopEnd).map Block.name := by
  rw [List.map_append, List.map_map, List.map_map, ← List.range_eq_range', ← List.range_eq_range']
  rfl

theorem wellFormed (t : Brainfuck.Block) (tapeLength : Nat) :
    WellFormed t.flatten (basicBlocks (lines (.allocate tapeLength :: (t.code 0 ++ [.halt])))) := by
  have hshaped := shaped_lines t tapeLength
  have hnames := hshaped.names
  have hedges := hshaped.edges_eq
  constructor
  · rw [basicBlocks, hnames, t.count_startLoop, blockNames_eq]
    exact .cons _ ((opens_perm t 0 0).map _)
  · rw [basicBlocks, hnames, List.nodup_cons]
    refine ⟨?_, (opens_nodup t 0 0).map name_injective⟩
    rw [List.mem_map]
    rintro ⟨b, -, hb⟩
    exact name_ne_entry b hb
  · exact hshaped.closed
  · intro e he
    rw [basicBlocks, hedges] at he
    obtain ⟨e', he', rfl⟩ := List.mem_map.1 he
    refine ⟨?_, name_ne_entry _⟩
    rw [basicBlocks, hnames]
    exact List.mem_cons_of_mem _ (List.mem_map_of_mem (branches_mem t _ _ _ _ he'))
  · exact hshaped.returns
  · intro before body after hprogram hbody
    obtain ⟨body, rfl⟩ := (balanced_iff_flatten body).1 hbody
    have hloop := (loopAt_of_withLoop t "entry" 0 0 hprogram).graph hnames hedges
    simpa [basicBlocks, labelName, loopEndName] using hloop

theorem text_wellFormed (program : List Instruction) (h : Balanced program) (tapeLength : Nat)
    (hN : 0 < tapeLength) :
    ∃ written ls, (Code.ofProgram .llvm tapeLength program).result = .ok ⟨.llvm, written⟩ ∧
      read? written = some ls ∧ WellFormed program (basicBlocks ls) := by
  obtain ⟨t, rfl⟩ := (balanced_iff_flatten program).1 h
  exact ⟨_, _, Code.ofProgram_result (lower_block hN t) .llvm, read?_text _, wellFormed t tapeLength⟩

/-- Two loops in a loop, the second of them empty and last. -/
def nestedLoops : List Instruction :=
  [.startLoop, .moveHead 1, .startLoop, .increment (-1), .finishLoop, .startLoop, .finishLoop, .finishLoop]

theorem text_wellFormed_nestedLoops :
    Balanced nestedLoops ∧ ∃ written ls, (Code.ofProgram .llvm 2 nestedLoops).result = .ok ⟨.llvm, written⟩ ∧
      read? written = some ls ∧ WellFormed nestedLoops (basicBlocks ls) ∧
      sources (basicBlocks ls) "label_0" = ["entry", "loop_end_1"] ∧
      sources (basicBlocks ls) "label_2" = ["label_1", "label_3"] ∧
      sources (basicBlocks ls) "label_4" = ["loop_end_0", "label_5"] := by
  have hb : Balanced nestedLoops := by decide
  obtain ⟨written, ls, hwritten, hread, hgraph⟩ := text_wellFormed nestedLoops hb 2 (by decide)
  have houter := hgraph.loops [] nestedLoops.tail.dropLast [] rfl (by decide)
  refine ⟨hb, written, ls, hwritten, hread, hgraph, houter.toCondition, ?_, ?_⟩
  · exact (hgraph.loops [.startLoop, .moveHead 1] [.increment (-1)] [.startLoop, .finishLoop, .finishLoop] rfl
      (by decide)).toCondition
  · exact (hgraph.loops [.startLoop, .moveHead 1, .startLoop, .increment (-1), .finishLoop] [] [.finishLoop] rfl
      (by decide)).toCondition

end Brainfuck.Llvm
