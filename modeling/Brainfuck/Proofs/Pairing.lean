import Brainfuck.Interpreter.Pairing
import Brainfuck.Proofs.Brackets
import Brainfuck.Proofs.Heights
import Brainfuck.Proofs.Labels
/-!
# The partners are the only pairing

`loopPartners_pairs`: the table of partners pairs all loop instructions of a program, nothing else pairs them, and where
there is no table there is no pairing.

Pairs are told apart by depth, which rises along each loop.
-/

namespace Brainfuck

/-! ## The depth along a loop -/

section Depth
variable {program : List Instruction} {i j i' j' n : Nat}

theorem depthAfter_take_succ {x : Instruction} (h : program[n]? = some x) :
    depthAfter (program.take (n + 1)) = depthAfter (program.take n) + x.nesting := by
  rw [List.take_add_one, h, depthAfter_append]
  exact congrArg _ (Int.add_zero _)

/-- The depth rises along a loop: inside at least that loop is open, and behind it no more than in front. -/
theorem IsLoop.rise (h : IsLoop program i j) : Rise (fun n => depthAfter (program.take n)) i j := by
  obtain ⟨before, body, after, rfl, hbody, rfl, rfl⟩ := h
  refine ⟨by omega, fun n hi hn => ?_, ?_⟩
  · obtain ⟨m, rfl⟩ := Nat.exists_eq_add_of_le hi
    have hm := depthAfter_take_nonneg hbody m
    rw [Nat.succ_add, ← Nat.add_succ, List.take_left, List.take_length_add_append, List.take_succ_cons,
      List.take_append_of_le_length (by omega), depthAfter_append, depthAfter]
    simp only [Instruction.nesting]
    omega
  · have hloop : before ++ .startLoop :: (body ++ .finishLoop :: after) =
        (before ++ .startLoop :: (body ++ [.finishLoop])) ++ after := by simp
    have hdepth : depthAfter (.startLoop :: (body ++ [.finishLoop])) = 0 := by
      simp [depthAfter, depthAfter_append, hbody.2, Instruction.nesting]
    rw [List.take_left, hloop, List.take_left' (by simp; omega), depthAfter_append, hdepth, Int.add_zero]

theorem IsLoop.start (h : IsLoop program i j) : program[i]? = some .startLoop := by
  obtain ⟨before, body, after, rfl, -, rfl, -⟩ := h
  rw [List.getElem?_append_right (Nat.le_refl _), Nat.sub_self]
  rfl

theorem IsLoop.finish (h : IsLoop program i j) : program[j]? = some .finishLoop := by
  obtain ⟨before, body, after, rfl, -, rfl, rfl⟩ := h
  rw [Nat.add_assoc, List.getElem?_append_right (by omega), Nat.add_sub_cancel_left, List.getElem?_cons_succ,
    List.getElem?_append_right (Nat.le_refl _), Nat.sub_self]
  rfl

theorem IsLoop.nestedOrDisjoint (h : IsLoop program i j) (h' : IsLoop program i' j') (hne : i ≠ i') :
    NestedOrDisjoint i j i' j' := by
  unfold NestedOrDisjoint
  rcases Nat.lt_or_gt_of_ne hne with hi | hi
  · have := h.rise.within h'.rise hi
    omega
  · have := h'.rise.within h.rise hi
    omega

end Depth

/-! ## Pairings -/

namespace PairsLoops

variable {program : List Instruction} {partner : Nat → Nat} (h : PairsLoops program partner)
include h

theorem loop_of_finish {i : Nat} (hi : program[i]? = some .finishLoop) : IsLoop program (partner i) i := by
  have hloop := (h.start _ (h.finish i hi)).2
  rwa [h.involutive i (.inr hi)] at hloop

theorem noneCross : NoneCross program partner :=
  fun i j hi hj hne => (h.start i hi).2.nestedOrDisjoint (h.start j hj).2 hne

/-- Two pairings of the same loop instructions are the same. -/
theorem unique {other : Nat → Nat} (h' : PairsLoops program other) {i : Nat} (hi : IsLoopInstruction program i) :
    partner i = other i := by
  have hstart {i : Nat} (hi : program[i]? = some .startLoop) : partner i = other i :=
    (h.start i hi).2.rise.finish_unique (h'.start i hi).2.rise
  rcases hi with hi | hi
  · exact hstart hi
  · -- The other partner of a loop end is a loop start, of which both say the same.
    have hsame := hstart (h'.finish i hi)
    rw [h'.involutive i (.inr hi)] at hsame
    calc partner i = partner (partner (other i)) := by rw [hsame]
      _ = other i := h.involutive _ (.inl (h'.finish i hi))

/-- No beginning of the program ends more loops than it starts: each of them has started before. -/
theorem depth_nonneg (n : Nat) : 0 ≤ depthAfter (program.take n) := by
  induction n using Nat.strong_induction_on with
  | _ n ih =>
    rcases n with _ | n
    · simp [depthAfter]
    · cases hx : program[n]? with
      | none =>
        rw [List.take_add_one, hx, Option.toList_none, List.append_nil]
        exact ih n (Nat.lt_succ_self n)
      | some x =>
        by_cases hfinish : x = .finishLoop
        · subst hfinish
          have hloop := h.loop_of_finish hx
          have hlt := hloop.rise.lt
          rw [hloop.rise.back]
          exact ih _ (by omega)
        · have hbefore := ih n (Nat.lt_succ_self n)
          have hnesting : 0 ≤ x.nesting := by
            cases x <;> first | exact absurd rfl hfinish | simp [Instruction.nesting]
          rw [depthAfter_take_succ hx]
          omega

/-- No end of the program starts more loops than it ends: each of them ends later. -/
theorem depth_le (n : Nat) : depthAfter program ≤ depthAfter (program.take n) := by
  -- From the back, since a loop start is made up for by what comes behind it.
  induction hk : program.length - n using Nat.strong_induction_on generalizing n with
  | _ k ih =>
    cases hx : program[n]? with
    | none => rw [List.take_of_length_le (List.getElem?_eq_none_iff.1 hx)]
    | some x =>
      have hlt : n < program.length := (List.getElem?_eq_some_iff.1 hx).1
      by_cases hstart : x = .startLoop
      · subst hstart
        have hloop := (h.start n hx).2
        have hn := hloop.rise.lt
        rw [← hloop.rise.back]
        exact ih _ (by omega) _ rfl
      · have hbehind := ih _ (by omega) (n + 1) rfl
        have hnesting : x.nesting ≤ 0 := by
          cases x <;> first | exact absurd rfl hstart | simp [Instruction.nesting]
        rw [depthAfter_take_succ hx] at hbehind
        omega

theorem balanced : Balanced program := by
  constructor
  · rintro ⟨n, hlow⟩
    exact absurd (h.depth_nonneg n) (Int.not_le.2 hlow)
  · have hwhole := h.depth_nonneg program.length
    have hnone := h.depth_le 0
    rw [List.take_length] at hwhole
    rw [List.take_zero, depthAfter] at hnone
    omega

end PairsLoops

/-! ## The table of partners -/

section Table
variable {program : List Instruction} {partners : Array Nat}

/-- Entries of instructions that are no loop instructions are never written. -/
theorem partnersFrom_others {n : Nat} {opened : List Nat} {table : Array Nat}
    (h : partnersFrom program n opened table = .ok partners) (ho : ∀ k ∈ opened, k < n) {i : Nat}
    (hi : i < program.length) (hnot : ¬ IsLoopInstruction program i) : partners[n + i]? = table[n + i]? := by
  induction program generalizing n opened table i with
  | nil => exact absurd hi (Nat.not_lt_zero i)
  | cons x rest ih =>
    rcases i with _ | i
    · have hx : x.nesting = 0 := by
        cases x <;> first | rfl | exact absurd (.inl rfl) hnot | exact absurd (.inr rfl) hnot
      rw [partnersFrom_other hx] at h
      exact (partnersFrom_keeps h).2 n (Nat.lt_succ_self n) fun hmem => Nat.lt_irrefl n (ho n hmem)
    · have hrest : i < rest.length := Nat.lt_of_succ_lt_succ hi
      have hnot' : ¬ IsLoopInstruction rest i := hnot
      rw [← Nat.add_assoc, Nat.add_right_comm]
      cases x with
      | startLoop =>
        refine ih (by simpa only [partnersFrom] using h) (fun k hk => ?_) hrest hnot'
        rcases List.mem_cons.1 hk with rfl | hk
        · exact Nat.lt_succ_self k
        · exact Nat.lt_succ_of_lt (ho k hk)
      | finishLoop =>
        cases opened with
        | nil => simp [partnersFrom] at h
        | cons start outer =>
          -- Written are this place and one before it.
          have hstart := ho start List.mem_cons_self
          rw [ih (by simpa only [partnersFrom] using h)
              (fun k hk => Nat.lt_succ_of_lt (ho k (List.mem_cons_of_mem _ hk))) hrest hnot',
            Array.getElem?_setIfInBounds_ne (by omega), Array.getElem?_setIfInBounds_ne (by omega)]
      | increment | moveHead | input | output =>
        rw [partnersFrom_other rfl] at h
        exact ih h (fun k hk => Nat.lt_succ_of_lt (ho k hk)) hrest hnot'

theorem balanced_of_loopPartners (h : loopPartners program = .ok partners) : Balanced program :=
  (diagnoses_loopPartners program).accepted.1 ⟨partners, by rw [h]; rfl⟩

/-- In the table the two ends of a loop are entered for each other, from whichever end one looks. -/
theorem exists_finish (h : loopPartners program = .ok partners) {i : Nat} (hi : program[i]? = some .startLoop) :
    ∃ j, IsLoop program i j ∧ partners.getD i 0 = j ∧ partners.getD j 0 = i := by
  obtain ⟨j, hloop, -⟩ := existsUnique_finish (balanced_of_loopPartners h) hi
  obtain ⟨hij, hji⟩ := hloop.partners h
  exact ⟨j, hloop, by simp [hij], by simp [hji]⟩

theorem exists_start (h : loopPartners program = .ok partners) {j : Nat} (hj : program[j]? = some .finishLoop) :
    ∃ i, IsLoop program i j ∧ partners.getD i 0 = j ∧ partners.getD j 0 = i := by
  obtain ⟨i, hloop, -⟩ := existsUnique_start (balanced_of_loopPartners h) hj
  obtain ⟨hij, hji⟩ := hloop.partners h
  exact ⟨i, hloop, by simp [hij], by simp [hji]⟩

theorem pairsLoops (h : loopPartners program = .ok partners) : PairsLoops program fun i => partners.getD i 0 := by
  constructor
  case closed =>
    rintro i (hi | hi)
    · obtain ⟨j, hloop, rfl, -⟩ := exists_finish h hi
      exact .inr hloop.finish
    · obtain ⟨j, hloop, -, rfl⟩ := exists_start h hi
      exact .inl hloop.start
  case involutive =>
    rintro i (hi | hi)
    · obtain ⟨j, -, rfl, hji⟩ := exists_finish h hi
      exact hji
    · obtain ⟨j, -, hji, rfl⟩ := exists_start h hi
      exact hji
  case moves =>
    rintro i (hi | hi)
    · obtain ⟨j, hloop, rfl, -⟩ := exists_finish h hi
      exact Nat.ne_of_gt hloop.rise.lt
    · obtain ⟨j, hloop, -, rfl⟩ := exists_start h hi
      exact Nat.ne_of_lt hloop.rise.lt
  case start =>
    intro i hi
    obtain ⟨j, hloop, rfl, -⟩ := exists_finish h hi
    exact ⟨hloop.rise.lt, hloop⟩
  case finish =>
    intro i hi
    obtain ⟨j, hloop, -, rfl⟩ := exists_start h hi
    exact hloop.start

theorem isPartnerTable (h : loopPartners program = .ok partners) : IsPartnerTable program partners := by
  refine ⟨(loopPartners_lt h).1, fun i hi hnot => ?_, pairsLoops h⟩
  have hothers := partnersFrom_others h (by simp) hi hnot
  rwa [Nat.zero_add, Array.getElem?_replicate, if_pos hi] at hothers

/-- There is one table only: where a pairing leaves an entry open, it is 0. -/
theorem IsPartnerTable.unique {table : Array Nat} (h : IsPartnerTable program partners)
    (h' : IsPartnerTable program table) : partners = table := by
  refine Array.ext (h.size.trans h'.size.symm) fun i hi hi' => ?_
  have hlt : i < program.length := h.size ▸ hi
  by_cases hloop : IsLoopInstruction program i
  · have hsame : partners.getD i 0 = table.getD i 0 := h.pairs.unique h'.pairs hloop
    simpa [Array.getD, hi, hi'] using hsame
  · have hsame := (h.others i hlt hloop).trans (h'.others i hlt hloop).symm
    simpa [hi, hi'] using hsame

end Table

theorem loopPartners_pairs (program : List Instruction) :
    (∀ partners, loopPartners program = .ok partners ↔ IsPartnerTable program partners) ∧
    (∀ partner, PairsLoops program partner → NoneCross program partner ∧
      ∀ other, PairsLoops program other → ∀ i, IsLoopInstruction program i → partner i = other i) ∧
    ((∃ e, loopPartners program = .error e) ↔ ¬ ∃ partner, PairsLoops program partner) := by
  refine ⟨fun partners => ⟨isPartnerTable, fun htable => ?_⟩, fun partner h => ?_, ?_, fun hnone => ?_⟩
  · obtain ⟨computed, h⟩ := exists_loopPartners htable.pairs.balanced
    rw [h, (isPartnerTable h).unique htable]
  · exact ⟨h.noneCross, fun other h' i hi => h.unique h' hi⟩
  · rintro ⟨e, he⟩ ⟨partner, hpartner⟩
    obtain ⟨partners, h⟩ := exists_loopPartners hpartner.balanced
    rw [h] at he
    cases he
  · cases h : loopPartners program with
    | error e => exact ⟨e, rfl⟩
    | ok partners => exact absurd ⟨_, pairsLoops h⟩ hnone

/-- Two loops in a loop, and two loop ends that nothing pairs. -/
theorem loopPartners_pairs_twoInOne :
    let program : List Instruction :=
      [.startLoop, .startLoop, .finishLoop, .increment 1, .startLoop, .finishLoop, .finishLoop]
    IsPartnerTable program #[6, 2, 1, 0, 5, 4, 0] ∧ NestedOrDisjoint 0 6 4 5 ∧ NestedOrDisjoint 1 2 4 5 ∧
      ¬ ∃ partner, PairsLoops [.finishLoop, .finishLoop] partner := by
  intro program
  have hpartners : loopPartners program = .ok #[6, 2, 1, 0, 5, 4, 0] := by decide
  have htable := ((loopPartners_pairs program).1 _).1 hpartners
  have hcross := ((loopPartners_pairs program).2.1 _ htable.pairs).1
  have hnone := (loopPartners_pairs [.finishLoop, .finishLoop]).2.2.1 ⟨.unmatchedFinish, rfl⟩
  exact ⟨htable, hcross 0 4 rfl rfl (by decide), hcross 1 4 rfl rfl (by decide), hnone⟩

end Brainfuck
