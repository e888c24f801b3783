import Brainfuck.Proofs.Brackets
import Brainfuck.Source.Words
/-!
# Which programs can be read, and from what

`readable_programs`: a program is read from some text just when it is balanced and none of its counts is zero or too
large. Its own commands are read as the program again unless two neighbours count the same thing; in `spaced` such
neighbours are kept apart by commands that cancel out.
-/

namespace Brainfuck

/-! ## Instructions as they are written -/

/-- The commands of an instruction, each an instruction of its own. -/
def Instruction.spelled (i : Instruction) : List Instruction := i.commands.filterMap ofChar?

theorem filterMap_commandsOf (program : List Instruction) :
    (commandsOf program).filterMap Instruction.ofChar? = program.flatMap Instruction.spelled := by
  induction program with
  | nil => rfl
  | cons i rest ih =>
    rw [List.flatMap_cons, ← ih, Instruction.spelled, ← List.filterMap_append]
    rfl

/-- What makes an instruction of a count. -/
def Counts (count : Int → Instruction) : Prop := count = .increment ∨ count = .moveHead

theorem counts_or_alone (i : Instruction) :
    (∃ count n, Counts count ∧ i = count n) ∨ i.spelled = [i] := by
  cases i with
  | increment n => exact .inl ⟨_, n, .inl rfl, rfl⟩
  | moveHead n => exact .inl ⟨_, n, .inr rfl, rfl⟩
  | input | output | startLoop | finishLoop => exact .inr rfl

theorem merge?_eq_none {i j : Instruction} (h : i.alike j = false) : i.merge? j = none := by
  cases i <;> cases j <;> first | rfl | cases h

theorem pushMerged_apart {collected : List Instruction} {i : Instruction}
    (h : ∀ last ∈ collected.head?, last.alike i = false) : pushMerged collected i = i :: collected := by
  cases collected with
  | nil => rfl
  | cons last earlier => rw [pushMerged, merge?_eq_none (h last rfl)]

section Counting
variable {count : Int → Instruction} (hc : Counts count)
include hc

theorem spelled_count (n : Int) : (count n).spelled = List.replicate n.natAbs (count n.sign) := by
  have hcommands (more less : Char) (hmore : Instruction.ofChar? more = some (count 1))
      (hless : Instruction.ofChar? less = some (count (-1))) :
      (repeated more less n).filterMap Instruction.ofChar? = List.replicate n.natAbs (count n.sign) := by
    rw [repeated]
    rcases Int.lt_trichotomy n 0 with hn | rfl | hn
    · rw [if_neg (by omega), List.filterMap_replicate_of_some hless, Int.sign_eq_neg_one_of_neg hn]
    · rfl
    · rw [if_pos (by omega), List.filterMap_replicate_of_some hmore, Int.sign_eq_one_of_pos hn]
  rcases hc with rfl | rfl
  · exact hcommands _ _ rfl rfl
  · exact hcommands _ _ rfl rfl

theorem isWord_count (n : Int) : (count n).isWord = true ↔ -2 ^ 63 ≤ n ∧ n < 2 ^ 63 := by
  rcases hc with rfl | rfl <;> simp [Instruction.isWord]

theorem isEffective_count (n : Int) : (count n).isEffective = true ↔ n ≠ 0 := by
  rcases hc with rfl | rfl <;> simp [Instruction.isEffective]

theorem pushMerged_count (m n : Int) (collected : List Instruction) :
    pushMerged (count m :: collected) (count n) = count (m + n) :: collected := by
  rcases hc with rfl | rfl <;> rfl

theorem alike_count (m n : Int) (i : Instruction) : i.alike (count m) = i.alike (count n) := by
  rcases hc with rfl | rfl <;> cases i <;> rfl

theorem foldl_replicate (k : Nat) (m n : Int) (collected : List Instruction) :
    (List.replicate k (count n)).foldl pushMerged (count m :: collected) = count (m + k * n) :: collected := by
  induction k generalizing m with
  | zero => simp
  | succ k ih =>
    rw [List.replicate_succ, List.foldl_cons, pushMerged_count hc, ih]
    congr 2
    push_cast
    ring

/-- Commands in a row that nothing in front of them counts with become one instruction. -/
theorem foldl_replicate_apart {collected : List Instruction} {n : Int}
    (h : ∀ last ∈ collected.head?, last.alike (count n) = false) (k : Nat) :
    (List.replicate k (count n)).foldl pushMerged collected =
      if k = 0 then collected else count (k * n) :: collected := by
  cases k with
  | zero => rfl
  | succ k =>
    rw [List.replicate_succ, List.foldl_cons, pushMerged_apart h, foldl_replicate hc, if_neg (Nat.succ_ne_zero k)]
    congr 2
    push_cast
    ring

end Counting

/-! ## Reading an instruction -/

theorem sumsAreWords_append {collected p q : List Instruction} (hp : SumsAreWords collected p)
    (hq : SumsAreWords (p.foldl pushMerged collected) q) : SumsAreWords collected (p ++ q) := by
  intro n
  rw [List.take_append, List.foldl_append]
  by_cases hn : n ≤ p.length
  · rw [Nat.sub_eq_zero_of_le hn, List.take_zero]
    exact hp n
  · rw [List.take_of_length_le (by omega)]
    exact hq _

theorem sumsAreWords_nil {collected : List Instruction} (hcollected : ∀ j ∈ collected, j.isWord = true) :
    SumsAreWords collected [] := by
  intro n
  rw [List.take_nil]
  exact hcollected

theorem sumsAreWords_singleton {collected : List Instruction} {i : Instruction}
    (hcollected : ∀ j ∈ collected, j.isWord = true) (hmerged : ∀ j ∈ pushMerged collected i, j.isWord = true) :
    SumsAreWords collected [i] := by
  intro n
  cases n with
  | zero => exact hcollected
  | succ n =>
    rw [List.take_succ_cons, List.take_nil]
    exact hmerged

/-- The commands of an instruction are read as the instruction again. -/
theorem read_instruction {i : Instruction} (he : i.isEffective = true) (hw : i.isWord = true)
    {collected : List Instruction} (hcollected : ∀ j ∈ collected, j.isWord = true)
    (hapart : ∀ last ∈ collected.head?, last.alike i = false) :
    SumsAreWords collected i.spelled ∧ i.spelled.foldl pushMerged collected = i :: collected := by
  rcases counts_or_alone i with ⟨count, n, hc, rfl⟩ | halone
  · have hn := (isEffective_count hc n).1 he
    have hrange := (isWord_count hc n).1 hw
    have hunit : ∀ last ∈ collected.head?, last.alike (count n.sign) = false := by
      intro last hlast
      rw [alike_count hc _ n]
      exact hapart last hlast
    rw [spelled_count hc]
    constructor
    · intro k j hj
      rw [List.take_replicate, foldl_replicate_apart hc hunit] at hj
      split at hj
      · exact hcollected j hj
      · rcases List.mem_cons.1 hj with rfl | hj
        · -- Less than all of the commands counts less far.
          rw [isWord_count hc]
          rcases Int.lt_or_gt_of_ne hn with hn | hn
          · rw [Int.sign_eq_neg_one_of_neg hn]
            omega
          · rw [Int.sign_eq_one_of_pos hn]
            omega
        · exact hcollected j hj
    · rw [foldl_replicate_apart hc hunit, if_neg (by omega), Int.mul_comm, Int.sign_mul_natAbs]
  · have hpush := pushMerged_apart hapart
    rw [halone]
    refine ⟨sumsAreWords_singleton hcollected ?_, hpush⟩
    rw [hpush]
    exact List.forall_mem_cons.2 ⟨hw, hcollected⟩

/-! ## Keeping neighbours apart -/

/-- Commands that cancel out, and count something else than the two. -/
def spacing : Instruction → Instruction → List Instruction
  | .increment _, .increment _ => [.moveHead 1, .moveHead (-1)]
  | .moveHead _, .moveHead _ => [.increment 1, .increment (-1)]
  | _, _ => []

/-- A program with commands that cancel out between neighbours that count the same thing. -/
def spaced : List Instruction → List Instruction
  | [] => []
  | [i] => [i]
  | i :: j :: rest => i :: (spacing i j ++ spaced (j :: rest))

theorem read_cancelled {count : Int → Instruction} (hc : Counts count) {collected : List Instruction}
    (hcollected : ∀ j ∈ collected, j.isWord = true)
    (hapart : ∀ last ∈ collected.head?, last.alike (count 1) = false) :
    SumsAreWords collected ([count 1, count (-1)].flatMap Instruction.spelled) ∧
      ([count 1, count (-1)].flatMap Instruction.spelled).foldl pushMerged collected = count 0 :: collected := by
  have hunits : [count 1, count (-1)].flatMap Instruction.spelled = [count 1] ++ [count (-1)] := by
    rcases hc with rfl | rfl <;> rfl
  have hone : pushMerged collected (count 1) = count 1 :: collected := pushMerged_apart hapart
  have hzero : pushMerged (count 1 :: collected) (count (-1)) = count 0 :: collected := pushMerged_count hc _ _ _
  have hwords (n : Int) (hn : -2 ^ 63 ≤ n ∧ n < 2 ^ 63) : ∀ j ∈ count n :: collected, j.isWord = true :=
    List.forall_mem_cons.2 ⟨(isWord_count hc n).2 hn, hcollected⟩
  rw [hunits]
  constructor
  · apply sumsAreWords_append
    · apply sumsAreWords_singleton hcollected
      rw [hone]
      exact hwords 1 (by decide)
    · rw [List.foldl_cons, List.foldl_nil, hone]
      apply sumsAreWords_singleton (hwords 1 (by decide))
      rw [hzero]
      exact hwords 0 (by decide)
  · rw [List.foldl_append, List.foldl_cons, List.foldl_nil, List.foldl_cons, List.foldl_nil, hone, hzero]

/-- Behind what keeps it apart from `i`, a neighbour merges with nothing, and only a count of zero has been added. -/
theorem read_spacing (i j : Instruction) {collected : List Instruction}
    (hcollected : ∀ k ∈ i :: collected, k.isWord = true) :
    SumsAreWords (i :: collected) ((spacing i j).flatMap Instruction.spelled) ∧
      ∃ zeros, ((spacing i j).flatMap Instruction.spelled).foldl pushMerged (i :: collected) = zeros ++ i :: collected ∧
        (∀ k ∈ zeros, k.isWord = true ∧ k.isEffective = false) ∧
        ∀ last ∈ (zeros ++ i :: collected).head?, last.alike j = false := by
  by_cases halike : i.alike j = true
  · cases i <;> cases j <;> cases halike
    · obtain ⟨hwords, hread⟩ := read_cancelled (.inr rfl) hcollected (by simp [Instruction.alike])
      exact ⟨hwords, [.moveHead 0], hread, by decide, by simp [Instruction.alike]⟩
    · obtain ⟨hwords, hread⟩ := read_cancelled (.inl rfl) hcollected (by simp [Instruction.alike])
      exact ⟨hwords, [.increment 0], hread, by decide, by simp [Instruction.alike]⟩
  · have hnone : spacing i j = [] := by
      cases i <;> cases j <;> first | rfl | exact absurd rfl halike
    rw [hnone]
    exact ⟨sumsAreWords_nil hcollected, [], rfl, by simp, by simpa using halike⟩

/-- A program that is spaced is read as the program, whatever has been collected before. -/
theorem read_spaced {program : List Instruction} (he : ∀ i ∈ program, i.isEffective = true)
    (hw : ∀ i ∈ program, i.isWord = true) {collected : List Instruction}
    (hcollected : ∀ j ∈ collected, j.isWord = true)
    (hapart : ∀ first ∈ program.head?, ∀ last ∈ collected.head?, last.alike first = false) :
    SumsAreWords collected ((spaced program).flatMap Instruction.spelled) ∧
      (((spaced program).flatMap Instruction.spelled).foldl pushMerged collected).filter Instruction.isEffective =
        program.reverse ++ collected.filter Instruction.isEffective := by
  fun_induction spaced program generalizing collected with
  | case1 => exact ⟨sumsAreWords_nil hcollected, rfl⟩
  | case2 i =>
    have hei := he i List.mem_cons_self
    obtain ⟨hwords, hread⟩ := read_instruction hei (hw i List.mem_cons_self) hcollected (hapart i rfl)
    rw [List.flatMap_cons, List.flatMap_nil, List.append_nil, hread, List.filter_cons_of_pos hei]
    exact ⟨hwords, rfl⟩
  | case3 i j rest ih =>
    obtain ⟨hei, herest⟩ := List.forall_mem_cons.1 he
    obtain ⟨hwi, hwrest⟩ := List.forall_mem_cons.1 hw
    obtain ⟨hwords, hread⟩ := read_instruction hei hwi hcollected (hapart i rfl)
    have hbehind : ∀ k ∈ i :: collected, k.isWord = true := List.forall_mem_cons.2 ⟨hwi, hcollected⟩
    obtain ⟨hwords', zeros, hread', hzeros, hapart'⟩ := read_spacing i j hbehind
    have hspaced : ∀ k ∈ zeros ++ i :: collected, k.isWord = true :=
      List.forall_mem_append.2 ⟨fun k hk => (hzeros k hk).1, hbehind⟩
    obtain ⟨hwords'', hread''⟩ := ih herest hwrest hspaced (by rintro _ ⟨⟩; exact hapart')
    rw [List.flatMap_cons, List.flatMap_append]
    constructor
    · apply sumsAreWords_append hwords
      rw [hread]
      apply sumsAreWords_append hwords'
      rw [hread']
      exact hwords''
    · have hnone : zeros.filter Instruction.isEffective = [] :=
        List.filter_eq_nil_iff.2 fun k hk => by simp [(hzeros k hk).2]
      rw [List.foldl_append, List.foldl_append, hread, hread', hread'', List.filter_append, hnone,
        List.filter_cons_of_pos hei]
      simp

theorem hasAlikeNeighbours_iff (program : List Instruction) :
    HasAlikeNeighbours program ↔ ¬ program.IsChain fun i j => i.alike j = false := by
  rw [List.isChain_iff_forall_rel_of_append_cons_cons]
  constructor
  · rintro ⟨before, i, j, after, hsplit, halike⟩ hchain
    rw [hchain hsplit] at halike
    cases halike
  · intro hchain
    by_contra hnone
    refine hchain fun i j before after hsplit => ?_
    by_contra halike
    exact hnone ⟨before, i, j, after, hsplit, by simpa using halike⟩

instance (program : List Instruction) : Decidable (HasAlikeNeighbours program) :=
  decidable_of_iff _ (hasAlikeNeighbours_iff program).symm

theorem spaced_eq_self {program : List Instruction} (h : ¬ HasAlikeNeighbours program) : spaced program = program := by
  fun_induction spaced program with
  | case1 => rfl
  | case2 => rfl
  | case3 i j rest ih =>
    have hrest : ¬ HasAlikeNeighbours (j :: rest) := by
      rintro ⟨before, k, l, after, hsplit, halike⟩
      exact h ⟨i :: before, k, l, after, by rw [hsplit]; rfl, halike⟩
    have hnone : spacing i j = [] := by
      have halike : ¬ i.alike j = true := fun halike => h ⟨[], i, j, rest, rfl, halike⟩
      cases i <;> cases j <;> first | rfl | exact absurd rfl halike
    rw [ih hrest, hnone]
    rfl

/-! ## Alike neighbours become one -/

theorem coalesce_replicate {count : Int → Instruction} (hc : Counts count) (k : Nat) (n : Int)
    (rest : List Instruction) :
    coalesce (List.replicate (k + 1) (count n) ++ rest) = mergeCons (count ((k + 1 : Nat) * n)) (coalesce rest) := by
  induction k with
  | zero => simp [coalesce]
  | succ k ih =>
    have hmerge : (count n).merge? (count ((k + 1 : Nat) * n)) = some (count ((k + 1 + 1 : Nat) * n)) := by
      have hsum : n + (k + 1 : Nat) * n = (k + 1 + 1 : Nat) * n := by
        push_cast
        ring
      rcases hc with rfl | rfl <;> rw [Instruction.merge?, hsum]
    rw [List.replicate_succ, List.cons_append, coalesce, ih, mergeCons_mergeCons, hmerge]

theorem coalesce_spelled {i : Instruction} (he : i.isEffective = true) (rest : List Instruction) :
    coalesce (i.spelled ++ rest) = mergeCons i (coalesce rest) := by
  rcases counts_or_alone i with ⟨count, n, hc, rfl⟩ | halone
  · have hn := (isEffective_count hc n).1 he
    obtain ⟨k, hk⟩ : ∃ k, n.natAbs = k + 1 := ⟨n.natAbs - 1, by omega⟩
    rw [spelled_count hc, hk, coalesce_replicate hc, ← hk, Int.mul_comm, Int.sign_mul_natAbs]
  · rw [halone]
    rfl

theorem coalesce_flatMap_spelled {program : List Instruction} (he : ∀ i ∈ program, i.isEffective = true) :
    coalesce (program.flatMap Instruction.spelled) = coalesce program := by
  induction program with
  | nil => rfl
  | cons i rest ih =>
    obtain ⟨hei, herest⟩ := List.forall_mem_cons.1 he
    rw [List.flatMap_cons, coalesce_spelled hei, ih herest]
    rfl

theorem length_mergeCons (i : Instruction) (program : List Instruction) :
    (mergeCons i program).length ≤ program.length + 1 := by
  cases program with
  | nil => exact Nat.le_refl _
  | cons j rest =>
    rw [mergeCons]
    cases i.merge? j <;> simp

theorem length_coalesce_append (p q : List Instruction) :
    (coalesce (p ++ q)).length ≤ p.length + (coalesce q).length := by
  induction p with
  | nil => simp
  | cons i p ih =>
    have hcons := length_mergeCons i (coalesce (p ++ q))
    rw [List.cons_append, coalesce, List.length_cons]
    omega

theorem length_coalesce_lt {program : List Instruction} (h : HasAlikeNeighbours program) :
    (coalesce program).length < program.length := by
  obtain ⟨before, i, j, after, rfl, halike⟩ := h
  obtain ⟨merged, hmerged⟩ : ∃ merged, i.merge? j = some merged := by
    cases i <;> cases j <;> first | exact ⟨_, rfl⟩ | cases halike
  have htwo : coalesce (i :: j :: after) = mergeCons merged (coalesce after) := by
    rw [coalesce, coalesce, mergeCons_mergeCons, hmerged]
  have hbefore := length_coalesce_append before (i :: j :: after)
  have hone := length_mergeCons merged (coalesce after)
  have hafter := length_coalesce_append after []
  rw [htwo] at hbefore
  simp only [List.append_nil, coalesce, List.length_nil] at hafter
  simp only [List.length_append, List.length_cons]
  omega

/-! ## Texts -/

/-- A text with the commands of the spaced program is read as the program. -/
theorem readsAs_of_spaced {text : String} {program : List Instruction} (htext : text ≠ "")
    (hcommands : text.toList.filterMap Instruction.ofChar? = (spaced program).flatMap Instruction.spelled)
    (hb : Balanced program) (he : ∀ i ∈ program, i.isEffective = true) (hw : ∀ i ∈ program, i.isWord = true) :
    ReadsAs text program := by
  obtain ⟨hwords, hread⟩ := @read_spaced program he hw [] (by simp) (by simp)
  have hinstructions : instructionsOf text.toList = program := by
    rw [instructionsOf, hcommands, List.filter_reverse, hread, List.filter_nil, List.append_nil, List.reverse_reverse]
  obtain ⟨source, hsource⟩ := (ofText_iff_balanced htext).2 (hinstructions.symm ▸ hb)
  obtain rfl := Source.text_of_ofText hsource
  refine ⟨source, hsource, hinstructions, ?_⟩
  rw [Source.unmerged, hcommands]
  exact hwords

/-- What a text is read as is balanced, and counts neither nothing nor too much. -/
theorem ReadsAs.wellFormed {text : String} {program : List Instruction} (h : ReadsAs text program) :
    Balanced program ∧ (∀ i ∈ program, i.isEffective = true) ∧ ∀ i ∈ program, i.isWord = true := by
  obtain ⟨source, -, rfl, hwords⟩ := h
  refine ⟨source.instructions_balanced, fun i hi => ?_, fun i hi => ?_⟩
  · rw [Source.instructions, instructionsOf] at hi
    exact (List.mem_filter.1 hi).2
  · rw [Source.instructions, instructionsOf] at hi
    have hall := hwords source.unmerged.length
    rw [List.take_length] at hall
    exact hall i (List.mem_reverse.1 (List.mem_filter.1 hi).1)

theorem commands_ne_nil {i : Instruction} (he : i.isEffective = true) : i.commands ≠ [] := by
  cases i with
  | increment n | moveHead n => simpa [Instruction.commands, repeated, Instruction.isEffective] using he
  | input | output | startLoop | finishLoop => simp [Instruction.commands]

theorem renderedText_ne_empty {program : List Instruction} (hne : program ≠ [])
    (he : ∀ i ∈ program, i.isEffective = true) : renderedText program ≠ "" := by
  obtain ⟨i, rest, rfl⟩ := List.exists_cons_of_ne_nil hne
  have hi := commands_ne_nil (he i List.mem_cons_self)
  simp [renderedText, commandsOf, hi]

theorem readable_programs (program : List Instruction) :
    ((∃ text, ReadsAs text program) ↔
      Balanced program ∧ (∀ i ∈ program, i.isEffective = true) ∧ ∀ i ∈ program, i.isWord = true) ∧
    (Balanced program → (∀ i ∈ program, i.isEffective = true) → (∀ i ∈ program, i.isWord = true) →
      (program ≠ [] → ¬ HasAlikeNeighbours program → ReadsAs (renderedText program) program) ∧
      (HasAlikeNeighbours program →
        ∀ source, Source.ofText (renderedText program) = .ok source → source.instructions ≠ program)) := by
  constructor
  · constructor
    · rintro ⟨text, h⟩
      exact h.wellFormed
    · rintro ⟨hb, he, hw⟩
      -- A comment in front, since no text without characters is a source.
      refine ⟨String.ofList (' ' :: commandsOf (spaced program)), readsAs_of_spaced (by simp) ?_ hb he hw⟩
      rw [String.toList_ofList, ← filterMap_commandsOf]
      rfl
  · intro hb he hw
    constructor
    · intro hne hapart
      refine readsAs_of_spaced (renderedText_ne_empty hne he) ?_ hb he hw
      rw [renderedText, String.toList_ofList, filterMap_commandsOf, spaced_eq_self hapart]
    · intro halike source hsource hread
      have htext := Source.text_of_ofText hsource
      rw [Source.instructions, htext, instructionsOf_eq, renderedText, String.toList_ofList, filterMap_commandsOf,
        coalesce_flatMap_spelled he] at hread
      have hshorter := length_coalesce_lt halike
      have hfilter := List.length_filter_le Instruction.isEffective (coalesce program)
      rw [hread] at hfilter
      omega

theorem readable_programs_neighbours :
    let twice : List Instruction := [.increment 1, .increment 1]
    let countdown : List Instruction := [.input, .startLoop, .increment (-2), .moveHead 3, .finishLoop]
    (Balanced twice ∧ (∀ i ∈ twice, i.isEffective = true) ∧ (∀ i ∈ twice, i.isWord = true) ∧
      (∃ text, ReadsAs text twice) ∧ HasAlikeNeighbours twice ∧ renderedText twice = "++" ∧
      ∀ source, Source.ofText "++" = .ok source → source.instructions ≠ twice) ∧
    (Balanced countdown ∧ (∀ i ∈ countdown, i.isEffective = true) ∧ (∀ i ∈ countdown, i.isWord = true) ∧
      countdown ≠ [] ∧ ¬ HasAlikeNeighbours countdown ∧ renderedText countdown = ",[-->>>]" ∧
      ReadsAs ",[-->>>]" countdown) := by
  intro twice countdown
  constructor
  · have hb : Balanced twice := by decide
    have he : ∀ i ∈ twice, i.isEffective = true := by decide
    have hw : ∀ i ∈ twice, i.isWord = true := by decide
    have halike : HasAlikeNeighbours twice := by decide
    obtain ⟨hreads, hrendered⟩ := readable_programs twice
    exact ⟨hb, he, hw, hreads.2 ⟨hb, he, hw⟩, halike, rfl, (hrendered hb he hw).2 halike⟩
  · have hb : Balanced countdown := by decide
    have he : ∀ i ∈ countdown, i.isEffective = true := by decide
    have hw : ∀ i ∈ countdown, i.isWord = true := by decide
    have hne : countdown ≠ [] := by decide
    have hapart : ¬ HasAlikeNeighbours countdown := by decide
    exact ⟨hb, he, hw, hne, hapart, rfl, ((readable_programs countdown).2 hb he hw).1 hne hapart⟩

end Brainfuck
