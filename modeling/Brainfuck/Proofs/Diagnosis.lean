import Brainfuck.Proofs.Code
import Brainfuck.Proofs.Heights
import Brainfuck.Source.Brackets
import Mathlib.Data.List.Sort
/-!
# What is wrong with a text

`scanned_openBrackets`: the stack that a text is read with holds the positions of the brackets that are never
closed, and all others have their partners. `ofText_diagnoses`: so a text is refused for its first stray bracket,
or else for just the brackets that are never closed.
-/

namespace Brainfuck

/-! ## Counting -/

@[simp] theorem surplus_nil : surplus [] = 0 := rfl

@[simp] theorem surplus_append (p q : List Char) : surplus (p ++ q) = surplus p + surplus q := by
  simp only [surplus, List.count_append]
  omega

theorem surplus_cons (c : Char) (text : List Char) : surplus (c :: text) = surplus [c] + surplus text :=
  surplus_append [c] text

@[simp] theorem surplus_opening : surplus ['['] = 1 := rfl

@[simp] theorem surplus_closing : surplus [']'] = -1 := rfl

theorem surplus_other {c : Char} (ho : c ≠ '[') (hc : c ≠ ']') : surplus [c] = 0 := by
  simp [surplus, ho, hc]

/-- The counts behind all beginnings of two pieces. -/
theorem surplus_take_append {p q : List Char} {k : Int} (hp : ∀ n, k ≤ surplus (p.take n))
    (hq : ∀ n, k ≤ surplus p + surplus (q.take n)) (n : Nat) : k ≤ surplus ((p ++ q).take n) := by
  rw [List.take_append, surplus_append]
  by_cases hn : n ≤ p.length
  · have := hp n
    simpa [Nat.sub_eq_zero_of_le hn] using this
  · rw [List.take_of_length_le (by omega)]
    exact hq (n - p.length)

theorem surplus_take_left {p q : List Char} {k : Int} (h : ∀ n, k ≤ surplus ((p ++ q).take n)) (n : Nat) :
    k ≤ surplus (p.take n) := by
  have := h (min n p.length)
  rwa [List.take_append_of_le_length (Nat.min_le_right _ _), ← List.take_eq_take_min] at this

theorem surplus_take_singleton {c : Char} {k : Int} (h0 : k ≤ 0) (hc : k ≤ surplus [c]) (n : Nat) :
    k ≤ surplus ([c].take n) := by
  cases n <;> simpa

/-- Behind a bracket that opens, one more may be closed. -/
theorem surplus_take_opening {behind : List Char} (h : ∀ n, -1 ≤ surplus (behind.take n)) (n : Nat) :
    0 ≤ surplus (('[' :: behind).take n) := by
  refine surplus_take_append (p := ['[']) (surplus_take_singleton (Int.le_refl 0) (by simp)) (fun n => ?_) n
  have := h n
  rw [surplus_opening]
  omega

theorem surplus_nonneg {text : List Char} (h : ∀ n, 0 ≤ surplus (text.take n)) : 0 ≤ surplus text := by
  have := h text.length
  rwa [List.take_length] at this

/-! ## Nested stretches -/

theorem Nested.nil : Nested [] := ⟨by simp, rfl⟩

theorem Nested.append {p q : List Char} (hp : Nested p) (hq : Nested q) : Nested (p ++ q) := by
  refine ⟨surplus_take_append hp.beginnings fun n => ?_, ?_⟩
  · rw [hp.whole, Int.zero_add]
    exact hq.beginnings n
  · rw [surplus_append, hp.whole, hq.whole, Int.zero_add]

theorem Nested.other {c : Char} (ho : c ≠ '[') (hc : c ≠ ']') : Nested [c] := by
  have h := surplus_other ho hc
  exact ⟨surplus_take_singleton (Int.le_refl 0) (by omega), h⟩

theorem Nested.brackets {inside : List Char} (h : Nested inside) : Nested ('[' :: (inside ++ [']'])) := by
  have hwhole := h.whole
  have hbehind (n : Nat) : -1 ≤ surplus ((inside ++ [']']).take n) := by
    refine surplus_take_append (fun n => ?_) (fun n => ?_) n
    · have := h.beginnings n
      omega
    · have := surplus_take_singleton (c := ']') (k := -1) (by omega) (by simp) n
      omega
  refine ⟨surplus_take_opening hbehind, ?_⟩
  rw [surplus_cons, surplus_append, surplus_opening, surplus_closing]
  omega

theorem Nested.behind_opening {inside : List Char} (h : Nested inside) (n : Nat) :
    0 ≤ surplus (('[' :: inside).take n) := by
  refine surplus_take_opening (fun n => ?_) n
  have := h.beginnings n
  omega

/-! ## Places in a text -/

/-- A place in two pieces is a place in the first or in the second. -/
theorem split_cases {p q before behind : List Char} {c : Char} (h : p ++ q = before ++ c :: behind) :
    (∃ rest, p = before ++ c :: rest ∧ behind = rest ++ q) ∨
      ∃ rest, before = p ++ rest ∧ q = rest ++ c :: behind := by
  rcases List.append_eq_append_iff.1 h with ⟨rest, hbefore, hq⟩ | ⟨_ | ⟨d, rest⟩, hp, hbehind⟩
  · exact .inr ⟨rest, hbefore, hq⟩
  · exact .inr ⟨[], by simpa using hp.symm, hbehind.symm⟩
  · obtain ⟨rfl, hrest⟩ := List.cons.inj hbehind
    exact .inl ⟨rest, hp, hrest⟩

section Places
variable {text p : List Char} {i j : Nat}

theorem NeverClosed.append (h : NeverClosed text i) (hp : ∀ n, 0 ≤ surplus (p.take n)) :
    NeverClosed (text ++ p) i := by
  obtain ⟨before, behind, rfl, rfl, hbehind⟩ := h
  refine ⟨before, behind ++ p, by simp, rfl, surplus_take_append hbehind fun n => ?_⟩
  have := surplus_nonneg hbehind
  have := hp n
  omega

theorem Nested.not_neverClosed (h : Nested text) (i : Nat) : ¬ NeverClosed text i := by
  rintro ⟨before, behind, rfl, rfl, hbehind⟩
  have hbefore := surplus_nonneg (surplus_take_left h.beginnings)
  have hbehind := surplus_nonneg hbehind
  have hwhole := h.whole
  rw [surplus_append, surplus_cons, surplus_opening] at hwhole
  omega

theorem BracketPair.append (h : BracketPair text i j) (p : List Char) : BracketPair (text ++ p) i j := by
  obtain ⟨before, inside, behind, rfl, hi, hj, hinside⟩ := h
  exact ⟨before, inside, behind ++ p, by simp, hi, hj, hinside⟩

theorem Paired.append (h : Paired text i) (p : List Char) : Paired (text ++ p) i := by
  obtain ⟨j, h | h⟩ := h
  · exact ⟨j, .inl (h.append p)⟩
  · exact ⟨j, .inr (h.append p)⟩

theorem BracketAt.of_concat {c : Char} (h : BracketAt (text ++ [c]) i) :
    BracketAt text i ∨ i = text.length + 1 ∧ (c = '[' ∨ c = ']') := by
  obtain ⟨before, d, behind, hsplit, rfl, hd⟩ := h
  rcases split_cases hsplit with ⟨rest, rfl, -⟩ | ⟨rest, rfl, hrest⟩
  · exact .inl ⟨before, d, rest, rfl, rfl, hd⟩
  · have hlength := congrArg List.length hrest
    simp only [List.length_append, List.length_cons, List.length_nil] at hlength
    obtain rfl : rest = [] := List.eq_nil_of_length_eq_zero (by omega)
    cases hrest
    exact .inr ⟨by simp, hd⟩

end Places

/-! ## What the stack says -/

/-- A text falls into nested stretches with opening brackets between them, which stand at the given positions,
the last one first. -/
inductive LeavesOpen : List Char → List Nat → Prop
  | nested {text : List Char} : Nested text → LeavesOpen text []
  | opening {before inside : List Char} {opened : List Nat} : LeavesOpen before opened → Nested inside →
      LeavesOpen (before ++ '[' :: inside) ((before.length + 1) :: opened)

namespace LeavesOpen

variable {text : List Char} {opened : List Nat}

theorem append (h : LeavesOpen text opened) {p : List Char} (hp : Nested p) : LeavesOpen (text ++ p) opened := by
  cases h with
  | nested ht => exact .nested (ht.append hp)
  | opening hb hi =>
    rw [List.append_assoc, List.cons_append]
    exact .opening hb (hi.append hp)

theorem surplus_eq (h : LeavesOpen text opened) : surplus text = opened.length := by
  induction h with
  | nested ht => exact ht.whole
  | opening _ hi ih =>
    have := hi.whole
    rw [surplus_append, surplus_cons, surplus_opening, List.length_cons]
    omega

theorem beginnings (h : LeavesOpen text opened) (n : Nat) : 0 ≤ surplus (text.take n) := by
  induction h generalizing n with
  | nested ht => exact ht.beginnings n
  | opening hb hi ih =>
    refine surplus_take_append ih (fun n => ?_) n
    have := hb.surplus_eq
    have := hi.behind_opening n
    omega

theorem le_length (h : LeavesOpen text opened) : ∀ i ∈ opened, i ≤ text.length := by
  induction h with
  | nested => simp
  | opening _ _ ih =>
    intro i hi
    rw [List.length_append, List.length_cons]
    rcases List.mem_cons.1 hi with rfl | hi
    · omega
    · have := ih i hi
      omega

theorem descending (h : LeavesOpen text opened) : opened.Pairwise (· > ·) := by
  induction h with
  | nested => exact .nil
  | opening hb _ ih => exact List.pairwise_cons.2 ⟨fun i hi => Nat.lt_succ_of_le (hb.le_length i hi), ih⟩

theorem mem_iff (h : LeavesOpen text opened) (i : Nat) : i ∈ opened ↔ NeverClosed text i := by
  induction h with
  | nested ht => simp [ht.not_neverClosed]
  | @opening before inside opened hb hi ih =>
    rw [List.mem_cons, ih]
    constructor
    · rintro (rfl | h)
      · exact ⟨before, inside, rfl, rfl, hi.beginnings⟩
      · exact h.append hi.behind_opening
    · rintro ⟨front, behind, hsplit, rfl, hbehind⟩
      rcases split_cases hsplit with ⟨rest, rfl, rfl⟩ | ⟨_ | ⟨c, rest⟩, rfl, hrest⟩
      · exact .inr ⟨front, rest, rfl, rfl, surplus_take_left hbehind⟩
      · exact .inl (by simp)
      · -- Nothing inside a nested stretch is left open.
        obtain ⟨-, rfl⟩ := List.cons.inj hrest
        exact absurd ⟨rest, behind, rfl, rfl, hbehind⟩ (hi.not_neverClosed (rest.length + 1))

/-- A bracket that closes is the partner of the last one that is open. -/
theorem closing {i : Nat} (h : LeavesOpen text (i :: opened)) :
    LeavesOpen (text ++ [']']) opened ∧ BracketPair (text ++ [']']) i (text.length + 1) := by
  cases h with
  | @opening before inside _ hb hi =>
    constructor
    · have := hb.append hi.brackets
      simpa using this
    · exact ⟨before, inside, [], by simp, rfl, by simp; omega, hi⟩

end LeavesOpen

/-! ## Reading a text -/

/-- What has been read of a text, and what its stack says about it. -/
structure Scanned (text : List Char) (opened : List Nat) : Prop where
  leavesOpen : LeavesOpen text opened
  paired : ∀ i, BracketAt text i → i ∉ opened → Paired text i

namespace Scanned

variable {text : List Char} {opened : List Nat}

theorem nil : Scanned [] [] := by
  refine ⟨.nested .nil, ?_⟩
  rintro i ⟨before, c, behind, hsplit, -⟩
  simp at hsplit

theorem opening (h : Scanned text opened) : Scanned (text ++ ['[']) ((text.length + 1) :: opened) := by
  refine ⟨.opening h.leavesOpen .nil, fun i hi hopened => ?_⟩
  rw [List.mem_cons, not_or] at hopened
  rcases hi.of_concat with hi | ⟨rfl, -⟩
  · exact (h.paired i hi hopened.2).append _
  · exact absurd rfl hopened.1

theorem closing {i : Nat} (h : Scanned text (i :: opened)) : Scanned (text ++ [']']) opened := by
  obtain ⟨hopen, hpair⟩ := h.leavesOpen.closing
  refine ⟨hopen, fun j hj hopened => ?_⟩
  rcases hj.of_concat with hj | ⟨rfl, -⟩
  · by_cases hji : j = i
    · exact ⟨_, .inl (hji ▸ hpair)⟩
    · exact (h.paired j hj (by simp [hji, hopened])).append _
  · exact ⟨i, .inr hpair⟩

theorem other (h : Scanned text opened) {c : Char} (ho : c ≠ '[') (hc : c ≠ ']') : Scanned (text ++ [c]) opened := by
  refine ⟨h.leavesOpen.append (.other ho hc), fun i hi hopened => ?_⟩
  rcases hi.of_concat with hi | ⟨-, hbracket⟩
  · exact (h.paired i hi hopened).append _
  · simp [ho, hc] at hbracket

/-- A bracket that closes while none is open is the first one of its kind. -/
theorem stray (h : Scanned text []) (rest : List Char) : ShortestStray (text ++ ']' :: rest) (text.length + 1) := by
  have hwhole := h.leavesOpen.surplus_eq
  refine ⟨by simp, ?_, fun n hn => ?_⟩
  · rw [List.take_length_add_append, List.take_succ_cons, List.take_zero, surplus_append, hwhole]
    decide
  · rw [List.take_append_of_le_length (by omega)]
    exact h.leavesOpen.beginnings n

end Scanned

/-- What reading a text answers: what is left open at its end, or its shortest beginning that closes too much. -/
def Diagnosed (text : List Char) : Except Nat (List Nat) → Prop
  | .ok opened => Scanned text opened
  | .error position => ShortestStray text position

theorem scanned_openBrackets (rest : List Char) {text : List Char} {opened : List Nat} (h : Scanned text opened) :
    Diagnosed (text ++ rest) (openBrackets rest (text.length + 1) opened) := by
  induction rest generalizing text opened with
  | nil => simpa [openBrackets, Diagnosed] using h
  | cons c rest ih =>
    -- One character further, the stack says what it should about the text up to that character.
    have hnext {opened' : List Nat} (h' : Scanned (text ++ [c]) opened') :
        Diagnosed (text ++ c :: rest) (openBrackets rest (text.length + 1 + 1) opened') := by
      simpa using ih h'
    simp only [openBrackets]
    split
    next hc =>
      subst hc
      exact hnext h.opening
    next ho =>
      split
      next hc =>
        subst hc
        cases opened with
        | nil => exact h.stray rest
        | cons i outer => exact hnext h.closing
      next hc => exact hnext (h.other ho hc)

theorem diagnosed (text : List Char) : Diagnosed text (openBrackets text 1 []) :=
  scanned_openBrackets text Scanned.nil

/-! ## Pairs do not cross -/

section Pairs
variable {text : List Char} {i j i' j' : Nat}

/-- From a bracket that opens to the one that closes it, more is open than before it. Heights count what stands in
front of a place, and so from 0. -/
theorem BracketPair.rise (h : BracketPair text i j) :
    0 < i ∧ Rise (fun n => surplus (text.take n)) (i - 1) (j - 1) := by
  obtain ⟨before, inside, behind, rfl, rfl, rfl, hinside⟩ := h
  refine ⟨by omega, by omega, fun n hin hnj => ?_, ?_⟩
  · obtain ⟨m, rfl⟩ := Nat.exists_eq_add_of_le hin
    have hm := hinside.beginnings m
    rw [Nat.add_sub_cancel, Nat.succ_add, ← Nat.add_succ, List.take_left, List.take_length_add_append,
      List.take_succ_cons, List.take_append_of_le_length (by omega), surplus_append, surplus_cons, surplus_opening]
    omega
  · have hpair : before ++ '[' :: (inside ++ ']' :: behind) = (before ++ '[' :: (inside ++ [']'])) ++ behind := by
      simp
    rw [Nat.add_sub_cancel, Nat.add_sub_cancel, List.take_left, hpair, List.take_left' (by simp; omega),
      surplus_append, hinside.brackets.whole, Int.add_zero]

theorem BracketPair.nested_or_apart (h : BracketPair text i j) (h' : BracketPair text i' j') (hi : i < i') :
    j < i' ∨ j' < j := by
  obtain ⟨hpos, hrise⟩ := h.rise
  obtain ⟨-, hrise'⟩ := h'.rise
  have := hrise.lt
  have := hrise'.lt
  have := hrise.within hrise' (by omega)
  omega

theorem BracketPair.partner_unique (h : BracketPair text i j) (h' : BracketPair text i j') : j = j' := by
  obtain ⟨-, hrise⟩ := h.rise
  obtain ⟨-, hrise'⟩ := h'.rise
  have := hrise.lt
  have := hrise'.lt
  have := hrise.finish_unique hrise'
  omega

end Pairs

/-! ## Diagnoses -/

theorem ShortestStray.unique {text : List Char} {p q : Nat} (hp : ShortestStray text p) (hq : ShortestStray text q) :
    p = q := by
  rcases Nat.lt_trichotomy p q with h | h | h
  · exact absurd (hq.shortest p h) (by have := hp.stray; omega)
  · exact h
  · exact absurd (hp.shortest q h) (by have := hq.stray; omega)

theorem ShortestStray.not_beginnings {text : List Char} {p : Nat} (h : ShortestStray text p) :
    ¬ ∀ n, 0 ≤ surplus (text.take n) := fun hn => by
  have := hn p
  have := h.stray
  omega

theorem LeftOpen.unique {text : List Char} {p q : List Nat} (hp : LeftOpen text p) (hq : LeftOpen text q) : p = q :=
  hp.ascending.eq_of_mem_iff hq.ascending fun i => (hp.mem_iff i).trans (hq.mem_iff i).symm

theorem Scanned.leftOpen {text : List Char} {i : Nat} {opened : List Nat} (h : Scanned text (i :: opened)) :
    LeftOpen text (i :: opened).reverse := by
  refine ⟨h.leavesOpen.beginnings, ?_, ?_, fun j => ?_⟩
  · rw [h.leavesOpen.surplus_eq, List.length_cons]
    omega
  · exact List.pairwise_reverse.2 h.leavesOpen.descending
  · rw [List.mem_reverse, h.leavesOpen.mem_iff]

theorem Scanned.nested {text : List Char} (h : Scanned text []) : Nested text :=
  ⟨h.leavesOpen.beginnings, h.leavesOpen.surplus_eq⟩

/-- The four things that can be said about a text. -/
theorem ofText_cases (text : String) :
    (text = "" ∧ SourceError.ofText text = some .empty) ∨
      (text ≠ "" ∧ ∃ p, ShortestStray text.toList p ∧ SourceError.ofText text = some (.unexpectedClosing p)) ∨
      (text ≠ "" ∧ ∃ i opened, Scanned text.toList (i :: opened) ∧
        SourceError.ofText text = some (.unclosedOpenings (i :: opened).reverse)) ∨
      (text ≠ "" ∧ Scanned text.toList [] ∧ SourceError.ofText text = none) := by
  by_cases hempty : text = ""
  · exact .inl ⟨hempty, by rw [hempty]; rfl⟩
  · have hnot : text.isEmpty = false := by simpa using hempty
    have h := diagnosed text.toList
    rw [SourceError.ofText, hnot]
    rcases hread : openBrackets text.toList 1 [] with p | _ | ⟨i, opened⟩ <;> rw [hread] at h
    · exact .inr (.inl ⟨hempty, p, h, rfl⟩)
    · exact .inr (.inr (.inr ⟨hempty, h, rfl⟩))
    · exact .inr (.inr (.inl ⟨hempty, i, opened, h, rfl⟩))

/-! ## The diagnosis is exact -/

section Exact
variable {text : String}

theorem ofText_empty_iff : SourceError.ofText text = some .empty ↔ text = "" := by
  rcases ofText_cases text with ⟨h, hout⟩ | ⟨h, p, -, hout⟩ | ⟨h, i, opened, -, hout⟩ | ⟨h, -, hout⟩ <;>
    rw [hout] <;> simp [h]

theorem ofText_unexpectedClosing_iff (p : Nat) :
    SourceError.ofText text = some (.unexpectedClosing p) ↔ text ≠ "" ∧ ShortestStray text.toList p := by
  rcases ofText_cases text with ⟨h, hout⟩ | ⟨h, q, hq, hout⟩ | ⟨h, i, opened, hs, hout⟩ | ⟨h, hs, hout⟩
  · rw [hout]
    simp [h]
  · simp only [hout, Option.some.injEq, SourceError.unexpectedClosing.injEq, h, ne_eq, not_false_eq_true, true_and]
    exact ⟨fun e => e ▸ hq, fun hp => hq.unique hp⟩
  · have hnone : ¬ ShortestStray text.toList p := fun hp => hp.not_beginnings hs.leavesOpen.beginnings
    simp [hout, hnone]
  · have hnone : ¬ ShortestStray text.toList p := fun hp => hp.not_beginnings hs.leavesOpen.beginnings
    simp [hout, hnone]

theorem ofText_unclosedOpenings_iff (ps : List Nat) :
    SourceError.ofText text = some (.unclosedOpenings ps) ↔ text ≠ "" ∧ LeftOpen text.toList ps := by
  rcases ofText_cases text with ⟨h, hout⟩ | ⟨h, q, hq, hout⟩ | ⟨h, i, opened, hs, hout⟩ | ⟨h, hs, hout⟩
  · rw [hout]
    simp [h]
  · have hnone : ¬ LeftOpen text.toList ps := fun hp => hq.not_beginnings hp.beginnings
    simp [hout, hnone]
  · simp only [hout, Option.some.injEq, SourceError.unclosedOpenings.injEq, h, ne_eq, not_false_eq_true, true_and]
    exact ⟨fun e => e ▸ hs.leftOpen, fun hp => hs.leftOpen.unique hp⟩
  · have hnone : ¬ LeftOpen text.toList ps := fun hp => by
      have := hp.more
      have := hs.nested.whole
      omega
    simp [hout, hnone]

theorem ofText_none_iff : SourceError.ofText text = none ↔ text ≠ "" ∧ Nested text.toList := by
  rcases ofText_cases text with ⟨h, hout⟩ | ⟨h, q, hq, hout⟩ | ⟨h, i, opened, hs, hout⟩ | ⟨h, hs, hout⟩
  · rw [hout]
    simp [h]
  · have hnone : ¬ Nested text.toList := fun hn => hq.not_beginnings hn.beginnings
    simp [hout, hnone]
  · have hnone : ¬ Nested text.toList := fun hn => by
      have := hs.leftOpen.more
      have := hn.whole
      omega
    simp [hout, hnone]
  · simp [hout, h, hs.nested]

theorem scanned_of_leftOpen {ps : List Nat} (h : SourceError.ofText text = some (.unclosedOpenings ps)) :
    Scanned text.toList ps.reverse := by
  rcases ofText_cases text with ⟨-, hout⟩ | ⟨-, q, -, hout⟩ | ⟨-, i, opened, hs, hout⟩ | ⟨-, -, hout⟩ <;>
    rw [hout] at h <;> cases h
  rwa [List.reverse_reverse]

theorem scanned_of_valid (h : SourceError.ofText text = none) : Scanned text.toList [] := by
  rcases ofText_cases text with ⟨-, hout⟩ | ⟨-, q, -, hout⟩ | ⟨-, i, opened, -, hout⟩ | ⟨-, hs, -⟩
  · rw [hout] at h; cases h
  · rw [hout] at h; cases h
  · rw [hout] at h; cases h
  · exact hs

end Exact

theorem ofText_diagnoses (text : String) :
    (Source.ofText text = .error .empty ↔ text = "") ∧
    (∀ p, Source.ofText text = .error (.unexpectedClosing p) ↔ text ≠ "" ∧ ShortestStray text.toList p) ∧
    (∀ ps, Source.ofText text = .error (.unclosedOpenings ps) ↔ text ≠ "" ∧ LeftOpen text.toList ps) ∧
    ((∃ source, Source.ofText text = .ok source ∧ source.text = text) ↔ text ≠ "" ∧ Nested text.toList) ∧
    (∀ ps, Source.ofText text = .error (.unclosedOpenings ps) →
      (ps.length : Int) = surplus text.toList ∧ ∀ i, BracketAt text.toList i → i ∉ ps → Paired text.toList i) ∧
    (∀ source, Source.ofText text = .ok source → ∀ i, BracketAt text.toList i → Paired text.toList i) ∧
    ∀ i j i' j', BracketPair text.toList i j → BracketPair text.toList i' j' →
      (i = i' → j = j') ∧ (i < i' → j < i' ∨ j' < j) := by
  simp only [Source.ofText_eq_error_iff]
  refine ⟨ofText_empty_iff, ofText_unexpectedClosing_iff, ofText_unclosedOpenings_iff, ?_, fun ps h => ?_,
    fun source h => ?_, fun i j i' j' h h' => ⟨?_, h.nested_or_apart h'⟩⟩
  · rw [← ofText_none_iff, ← Source.exists_ofText_iff]
    exact exists_congr fun source => and_iff_left_of_imp Source.text_of_ofText
  · have hs := scanned_of_leftOpen h
    constructor
    · rw [hs.leavesOpen.surplus_eq, List.length_reverse]
    · intro i hi hps
      exact hs.paired i hi (by simpa using hps)
  · intro i hi
    exact (scanned_of_valid (Source.exists_ofText_iff.1 ⟨source, h⟩)).paired i hi (by simp)
  · rintro rfl
    exact h.partner_unique h'

theorem ofText_diagnoses_mixed :
    Source.ofText "é[a[]é[" = .error (.unclosedOpenings [2, 7]) ∧
    (([2, 7].length : Nat) : Int) = surplus "é[a[]é[".toList ∧ BracketAt "é[a[]é[".toList 5 ∧ 5 ∉ [2, 7] ∧
      Paired "é[a[]é[".toList 5 ∧
    ∃ source, Source.ofText "[[é]]" = .ok source ∧ BracketAt "[[é]]".toList 4 ∧ Paired "[[é]]".toList 4 ∧
      BracketPair "[[é]]".toList 1 5 ∧ BracketPair "[[é]]".toList 2 4 ∧ (5 < 2 ∨ 4 < 5) := by
  have hopen : Source.ofText "é[a[]é[" = .error (.unclosedOpenings [2, 7]) := rfl
  have hat : BracketAt "é[a[]é[".toList 5 := ⟨"é[a[".toList, ']', "é[".toList, rfl, rfl, .inr rfl⟩
  obtain ⟨hlength, hpaired⟩ := (ofText_diagnoses "é[a[]é[").2.2.2.2.1 _ hopen
  let source : Source := ⟨"[[é]]", by decide⟩
  have hsource : Source.ofText "[[é]]" = .ok source := source.ofText_text
  have hend : BracketAt "[[é]]".toList 4 := ⟨"[[é".toList, ']', [']'], rfl, rfl, .inr rfl⟩
  have hcomment : Nested ['é'] := .other (by decide) (by decide)
  have houter : BracketPair "[[é]]".toList 1 5 := ⟨[], "[é]".toList, [], rfl, rfl, rfl, hcomment.brackets⟩
  have hinner : BracketPair "[[é]]".toList 2 4 := ⟨['['], ['é'], [']'], rfl, rfl, rfl, hcomment⟩
  obtain ⟨-, -, -, -, -, hvalid, hpairs⟩ := ofText_diagnoses "[[é]]"
  exact ⟨hopen, hlength, hat, by decide, hpaired 5 hat (by decide), source, hsource, hend,
    hvalid source hsource 4 hend, houter, hinner, (hpairs 1 5 2 4 houter hinner).2 (by decide)⟩

end Brainfuck
