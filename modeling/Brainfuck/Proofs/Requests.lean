import Brainfuck.CommandLine
import Brainfuck.CommandLine.Sense
import Mathlib.Data.Nat.Digits.Lemmas
import Mathlib.Tactic.Ring
/-!
# Requests are made of arguments that make sense

`request_sensible`: arguments become a request if and only if they make sense, the request is what they ask for, and
of all other arguments the first check that they do not pass is reported, with nothing else done.

`request_cases` sums up the checks in their order. The rest are case analyses from it.
-/

namespace Brainfuck.CommandLine

/-! ## Numbers -/

theorem isDigit_iff (c : Char) : c.isDigit = true ↔ '0' ≤ c ∧ c ≤ '9' := by
  simp only [Char.isDigit, Bool.and_eq_true, decide_eq_true_eq]
  rfl

theorem digitsValue_eq_some_iff (digits : List Char) (value n : Nat) :
    digitsValue digits value = some n ↔ (∀ c ∈ digits, '0' ≤ c ∧ c ≤ '9') ∧
      n = value * 10 ^ digits.length +
        Nat.ofDigits 10 (digits.reverse.map fun c => c.toNat - '0'.toNat) := by
  induction digits generalizing value with
  | nil => simp [digitsValue, eq_comm]
  | cons c rest ih =>
    rw [digitsValue, List.forall_mem_cons, ← isDigit_iff]
    by_cases hc : c.isDigit = true
    · have hvalue : (value * 10 + (c.toNat - 48)) * 10 ^ rest.length +
            Nat.ofDigits 10 (rest.reverse.map fun c => c.toNat - '0'.toNat) =
          value * 10 ^ (c :: rest).length +
            Nat.ofDigits 10 ((c :: rest).reverse.map fun c => c.toNat - '0'.toNat) := by
        rw [List.reverse_cons, List.map_append, Nat.ofDigits_append, List.length_map, List.length_reverse,
          List.map_singleton, Nat.ofDigits_singleton, List.length_cons, pow_succ]
        have hzero : '0'.toNat = 48 := rfl
        rw [hzero]
        ring
      rw [if_pos hc, ih, hvalue]
      simp [hc]
    · simp [hc]

/-- What stands behind a plus in front, if there is one. -/
def withoutPlus : List Char → List Char
  | '+' :: digits => digits
  | digits => digits

/-- Only one list of digits can be meant, since a plus is no digit. -/
theorem withoutPlus_iff {text digits : List Char} (h : ∀ c ∈ digits, '0' ≤ c ∧ c ≤ '9') :
    withoutPlus text = digits ↔ text = digits ∨ text = '+' :: digits := by
  have hplus : ∀ rest, digits ≠ '+' :: rest := by
    rintro rest rfl
    exact absurd (h '+' List.mem_cons_self).1 (by decide)
  unfold withoutPlus
  split
  next rest => simp [(hplus _).symm]
  next hother =>
    constructor
    · exact fun hsame => .inl hsame
    · rintro (hsame | hbehind)
      · exact hsame
      · exact absurd hbehind (hother digits)

theorem readNumber_eq (greatest : Nat) (text : String) : readNumber greatest text =
    match withoutPlus text.toList with
    | [] => none
    | digits =>
      match digitsValue digits 0 with
      | none => none
      | some n => if n ≤ greatest then some n else none := rfl

theorem readNumber_eq_some_iff {greatest n : Nat} {text : String} :
    readNumber greatest text = some n ↔ Denotes text n ∧ n ≤ greatest := by
  rw [readNumber_eq]
  generalize hdigits : withoutPlus text.toList = digits
  have hdenotes : Denotes text n ↔ digits ≠ [] ∧ digitsValue digits 0 = some n := by
    rw [digitsValue_eq_some_iff, Nat.zero_mul, Nat.zero_add]
    constructor
    · rintro ⟨digits', hne, htext, hall, hn⟩
      obtain rfl : digits = digits' := hdigits.symm.trans ((withoutPlus_iff hall).2 htext)
      exact ⟨hne, hall, hn⟩
    · rintro ⟨hne, hall, hn⟩
      exact ⟨digits, hne, (withoutPlus_iff hall).1 hdigits, hall, hn⟩
  rw [hdenotes]
  cases digits with
  | nil => simp
  | cons c rest =>
    dsimp only
    cases digitsValue (c :: rest) 0 with
    | none => simp
    | some value =>
      simp only [ne_eq, reduceCtorEq, not_false_eq_true, true_and, Option.some.injEq]
      constructor
      · intro h
        split at h
        next hle =>
          cases h
          exact ⟨rfl, hle⟩
        next => cases h
      · rintro ⟨rfl, hle⟩
        exact if_pos hle

theorem Denotes.unique {text : String} {m n : Nat} (hm : Denotes text m) (hn : Denotes text n) : m = n := by
  have hm' := readNumber_eq_some_iff.2 ⟨hm, Nat.le_max_left m n⟩
  have hn' := readNumber_eq_some_iff.2 ⟨hn, Nat.le_max_right m n⟩
  exact Option.some.inj (hm'.symm.trans hn')

namespace Arguments

/-! ## Check by check -/

section Checks
variable (a : Arguments)

theorem origin_cases :
    (∃ origin, a.origin = .ok origin ∧ a.HasOneOrigin ∧ (∀ path, a.file = some path → origin = .file path) ∧
      ∀ text, a.code = some text → origin = .code text) ∨
    ∃ e, a.origin = .error e ∧ ¬ a.HasOneOrigin ∧ a.Refused e.message := by
  unfold origin HasOneOrigin
  cases hfile : a.file with
  | none =>
    cases hcode : a.code with
    | none => exact .inr ⟨_, rfl, by simp, .noOrigin hfile hcode⟩
    | some text => exact .inl ⟨_, rfl, by simp, by simp, by simp⟩
  | some path =>
    cases hcode : a.code with
    | none => exact .inl ⟨_, rfl, by simp, by simp, by simp⟩
    | some text => exact .inr ⟨_, rfl, by simp, .twoOrigins (by simp [hfile]) (by simp [hcode])⟩

theorem action_cases (horigin : a.HasOneOrigin) :
    (∃ action, a.action = .ok action ∧ a.HasOneAction ∧ (a.run = true → action = .run) ∧
      (∀ path, a.out = some path → a.emitSource = true → action = .emitSource path) ∧
      ∀ path, a.out = some path → a.emitSource = false → action = .executable path) ∨
    ∃ e, a.action = .error e ∧ ¬ a.HasOneAction ∧ a.Refused e.message := by
  unfold action HasOneAction
  cases hrun : a.run with
  | true =>
    cases hout : a.out with
    | some path => exact .inr ⟨_, rfl, by simp, .runWithOut horigin hrun (by simp [hout])⟩
    | none =>
      cases hemit : a.emitSource with
      | true => exact .inr ⟨_, rfl, by simp, .runWithEmitSource horigin hrun hout hemit⟩
      | false => exact .inl ⟨_, rfl, by simp, by simp, by simp, by simp⟩
  | false =>
    cases hout : a.out with
    | none => exact .inr ⟨_, rfl, by simp, .noOut horigin hrun hout⟩
    | some path =>
      cases hemit : a.emitSource with
      | true => exact .inl ⟨_, rfl, by simp, by simp, by simp, by simp⟩
      | false => exact .inl ⟨_, rfl, by simp, by simp, by simp, by simp⟩

theorem tapeLength_cases :
    (∃ length, a.tapeLength = .ok length ∧ a.HasTapeLength ∧ (a.tape = none → length = 30000) ∧
      ∀ text, a.tape = some text → Denotes text length) ∨
    ∃ text, a.tape = some text ∧ a.tapeLength = .error (.invalidTapeLength text) ∧ ¬ a.HasTapeLength := by
  unfold tapeLength
  cases htape : a.tape with
  | none => exact .inl ⟨_, rfl, by simp [HasTapeLength, htape], fun _ => rfl, by simp⟩
  | some text =>
    have hgreatest : greatestTapeLength + 1 = 2 ^ 64 := rfl
    dsimp only
    split
    next n hread =>
      obtain ⟨hdenotes, hle⟩ := readNumber_eq_some_iff.1 hread
      refine .inl ⟨n + 1, rfl, ?_, by simp, ?_⟩
      · intro text' htext
        obtain rfl : text = text' := Option.some.inj (htape.symm.trans htext)
        exact ⟨n + 1, hdenotes, by omega, by omega⟩
      · rintro _ ⟨⟩
        exact hdenotes
    next hread =>
      have hnot : ¬ a.HasTapeLength := by
        intro h
        obtain ⟨n, hdenotes, hpos, hlt⟩ := h text htape
        obtain ⟨k, rfl⟩ : ∃ k, n = k + 1 := ⟨n - 1, by omega⟩
        exact hread k (readNumber_eq_some_iff.2 ⟨hdenotes, by omega⟩)
      exact .inr ⟨text, rfl, rfl, hnot⟩

theorem targetLanguage_ok (htarget : ∀ name, a.target = some name → name = "llvm" ∨ name = "c") :
    ∃ target, a.targetLanguage = .ok target ∧ (a.target = none → target = .llvm) ∧
      ∀ name, a.target = some name → target.name = name := by
  unfold targetLanguage
  cases hname : a.target with
  | none => exact ⟨.llvm, rfl, fun _ => rfl, by simp⟩
  | some name =>
    rcases htarget name hname with rfl | rfl
    · exact ⟨.llvm, rfl, fun _ => rfl, by simp [Target.name]⟩
    · exact ⟨.c, rfl, by simp, by simp [Target.name]⟩

theorem optimizationLevel_cases :
    (∃ level, a.optimizationLevel = .ok level ∧ a.HasLevel ∧ (a.level = none → level = 2) ∧
      ∀ text, a.level = some text → Denotes text level) ∨
    ∃ text, a.level = some text ∧ a.optimizationLevel = .error (.invalidLevel text) ∧ ¬ a.HasLevel := by
  unfold optimizationLevel
  cases hlevel : a.level with
  | none => exact .inl ⟨_, rfl, by simp [HasLevel, hlevel], fun _ => rfl, by simp⟩
  | some text =>
    have hgreatest : greatestLevel + 1 = 2 ^ 32 := rfl
    dsimp only
    split
    next n hread =>
      obtain ⟨hdenotes, hle⟩ := readNumber_eq_some_iff.1 hread
      refine .inl ⟨n, rfl, ?_, by simp, ?_⟩
      · intro text' htext
        obtain rfl : text = text' := Option.some.inj (hlevel.symm.trans htext)
        exact ⟨n, hdenotes, by omega⟩
      · rintro _ ⟨⟩
        exact hdenotes
    next hread =>
      have hnot : ¬ a.HasLevel := by
        intro h
        obtain ⟨n, hdenotes, hlt⟩ := h text hlevel
        rw [readNumber_eq_some_iff.2 ⟨hdenotes, by omega⟩] at hread
        cases hread
      exact .inr ⟨text, rfl, rfl, hnot⟩

variable {a}

theorem HasOneOrigin.exists_origin (h : a.HasOneOrigin) : ∃ origin, a.origin = .ok origin := by
  rcases a.origin_cases with ⟨origin, horigin, -⟩ | ⟨e, -, hnot, -⟩
  · exact ⟨origin, horigin⟩
  · exact absurd h hnot

theorem HasOneAction.exists_action (h : a.HasOneAction) (horigin : a.HasOneOrigin) :
    ∃ action, a.action = .ok action := by
  rcases a.action_cases horigin with ⟨action, haction, -⟩ | ⟨e, -, hnot, -⟩
  · exact ⟨action, haction⟩
  · exact absurd h hnot

theorem HasTapeLength.exists_length (h : a.HasTapeLength) : ∃ length, a.tapeLength = .ok length := by
  rcases a.tapeLength_cases with ⟨length, hlength, -⟩ | ⟨text, -, -, hnot⟩
  · exact ⟨length, hlength⟩
  · exact absurd h hnot

end Checks

/-! ## All checks -/

section All
variable {env : Environment} {a : Arguments} (htarget : ∀ name, a.target = some name → name = "llvm" ∨ name = "c")
include htarget

theorem request_cases :
    (∃ request, a.request env = .ok request ∧ a.MakesSense ∧ a.AsksFor env request) ∨
      ∃ e, a.request env = .error e ∧ ¬ a.MakesSense ∧ a.Refused e.message := by
  rcases a.origin_cases with ⟨origin, horigin, hasOrigin, hfile, hcode⟩ | ⟨e, he, hnot, hrefused⟩
  swap
  · exact .inr ⟨e, by simp only [request, he]; rfl, fun h => hnot h.origin, hrefused⟩
  rcases a.action_cases hasOrigin with ⟨action, haction, hasAction, hrun, hemit, hexecutable⟩ |
    ⟨e, he, hnot, hrefused⟩
  swap
  · exact .inr ⟨e, by simp only [request, horigin, he]; rfl, fun h => hnot h.action, hrefused⟩
  rcases a.tapeLength_cases with ⟨length, hlength, hasTape, hdefault, hgiven⟩ | ⟨text, htext, he, hnot⟩
  swap
  · exact .inr ⟨.invalidTapeLength text, by simp only [request, horigin, haction, he]; rfl, fun h => hnot h.tapeLength,
      .tapeLength hasOrigin hasAction htext hnot⟩
  obtain ⟨target, hlanguage, hstandard, hnamed⟩ := a.targetLanguage_ok htarget
  rcases a.optimizationLevel_cases with ⟨level, hlevel, hasLevel, husual, hasked⟩ | ⟨text, htext, he, hnot⟩
  swap
  · exact .inr ⟨.invalidLevel text, by simp only [request, horigin, haction, hlength, hlanguage, he]; rfl,
      fun h => hnot h.level, .level hasOrigin hasAction hasTape htext hnot⟩
  refine .inl ⟨⟨origin, action, ⟨length, target, a.driver.getD (env.driverFor target), min level 3⟩⟩, ?_,
    ⟨hasOrigin, hasAction, hasTape, hasLevel⟩, ?_⟩
  · simp only [request, horigin, haction, hlength, hlanguage, hlevel]
    cases a.driver <;> rfl
  · constructor <;> dsimp only
    · exact hfile
    · exact hcode
    · exact hrun
    · exact hemit
    · exact hexecutable
    · exact hdefault
    · exact hgiven
    · exact hstandard
    · exact hnamed
    · intro hnone
      rw [husual hnone]
      rfl
    · intro text htext
      exact ⟨level, hasked text htext, rfl⟩
    · intro hnone
      rw [hnone]
      rfl
    · intro driver hdriver
      rw [hdriver]
      rfl

/-- What is said of arguments that are refused is the message of the error. -/
theorem Refused.request_error {message : String} (h : a.Refused message) :
    ∃ e, a.request env = .error e ∧ e.message = message := by
  -- Every check in front of the one that fails goes through.
  cases h with
  | twoOrigins hfile hcode =>
    obtain ⟨path, hpath⟩ := Option.isSome_iff_exists.1 hfile
    obtain ⟨text, htext⟩ := Option.isSome_iff_exists.1 hcode
    refine ⟨.twoOrigins, ?_, rfl⟩
    simp only [request, origin, hpath, htext]
    rfl
  | noOrigin hfile hcode =>
    refine ⟨.noOrigin, ?_, rfl⟩
    simp only [request, origin, hfile, hcode]
    rfl
  | runWithOut horigin hrun hout =>
    obtain ⟨o, ho⟩ := horigin.exists_origin
    obtain ⟨path, hpath⟩ := Option.isSome_iff_exists.1 hout
    refine ⟨.runWithOut, ?_, rfl⟩
    simp only [request, ho, action, hrun, hpath]
    rfl
  | runWithEmitSource horigin hrun hout hemit =>
    obtain ⟨o, ho⟩ := horigin.exists_origin
    refine ⟨.runWithEmitSource, ?_, rfl⟩
    simp only [request, ho, action, hrun, hout, hemit]
    rfl
  | noOut horigin hrun hout =>
    obtain ⟨o, ho⟩ := horigin.exists_origin
    refine ⟨.noOut, ?_, rfl⟩
    simp only [request, ho, action, hrun, hout]
    rfl
  | @tapeLength text horigin haction htape hnot =>
    obtain ⟨o, ho⟩ := horigin.exists_origin
    obtain ⟨x, hx⟩ := haction.exists_action horigin
    rcases a.tapeLength_cases with ⟨-, -, h, -⟩ | ⟨text', htext, he, -⟩
    · exact absurd h hnot
    · obtain rfl : text = text' := Option.some.inj (htape.symm.trans htext)
      refine ⟨.invalidTapeLength text, ?_, rfl⟩
      simp only [request, ho, hx, he]
      rfl
  | @level text horigin haction htape hlevel hnot =>
    obtain ⟨o, ho⟩ := horigin.exists_origin
    obtain ⟨x, hx⟩ := haction.exists_action horigin
    obtain ⟨target, hlanguage, -⟩ := a.targetLanguage_ok htarget
    obtain ⟨length, hlength⟩ := htape.exists_length
    rcases a.optimizationLevel_cases with ⟨-, -, h, -⟩ | ⟨text', htext, he, -⟩
    · exact absurd h hnot
    · obtain rfl : text = text' := Option.some.inj (hlevel.symm.trans htext)
      refine ⟨.invalidLevel text, ?_, rfl⟩
      simp only [request, ho, hx, hlength, hlanguage, he]
      rfl

end All

end Arguments

/-! ## The process -/

namespace Reading

/-- Where reading stops early, the answer is no list of arguments. -/
def NoArguments : Progress → Prop
  | .reading _ => True
  | .answered p => ∀ a, p ≠ .arguments a

theorem noArguments_addFlag (r : Reading) (f : Flag) : NoArguments (r.addFlag f) := by
  cases f with
  | help | version =>
    intro a h
    cases h
  | emitSource | run | verbose => trivial

theorem noArguments_long (r : Reading) (text : List Char) : NoArguments (r.long text) := by
  unfold long
  dsimp only
  split
  · intro a h
    cases h
  · exact noArguments_addFlag r _
  · split <;> trivial

theorem noArguments_short (r : Reading) (text : List Char) : NoArguments (r.short text) := by
  induction text generalizing r with
  | nil => trivial
  | cons c rest ih =>
    rw [short]
    split
    · intro a h
      cases h
    next f _ =>
      have hflag := noArguments_addFlag r f
      split
      · exact ih _
      · exact hflag
    · split <;> trivial

theorem noArguments_argument (r : Reading) (text : String) : NoArguments (r.argument text) := by
  unfold argument
  dsimp only
  split
  · intro a h
    cases h
  · split
    · trivial
    · exact noArguments_long _ _
    · exact noArguments_short _ _
    · split
      · trivial
      · intro a h
        cases h

theorem target_of_finish {r : Reading} {a : Arguments} (h : r.finish = .arguments a) :
    ∀ name, a.target = some name → name = "llvm" ∨ name = "c" := by
  intro name hname
  unfold finish at h
  cases htarget : r.value? .target with
  | none =>
    rw [htarget] at h
    dsimp only at h
    split at h
    · cases h
    · cases h
      cases hname
  | some name' =>
    rw [htarget] at h
    dsimp only at h
    split at h
    · cases h
    next hgood =>
      cases h
      obtain rfl : name' = name := Option.some.inj hname
      simp only [targetNames, Bool.or_eq_true, Bool.not_eq_true', not_or, Bool.not_eq_false, List.contains_eq_mem,
        decide_eq_true_eq, List.mem_cons, List.not_mem_nil, or_false] at hgood
      exact hgood.2

end Reading

theorem target_of_parseFrom {arguments : List String} {r : Reading} {a : Arguments}
    (h : parseFrom arguments r = .arguments a) : ∀ name, a.target = some name → name = "llvm" ∨ name = "c" := by
  induction arguments generalizing r with
  | nil => exact Reading.target_of_finish h
  | cons text rest ih =>
    have hanswer := r.noArguments_argument text
    rw [parseFrom] at h
    split at h
    · exact ih h
    next answer heq =>
      rw [heq] at hanswer
      exact absurd h (hanswer a)

/-- Arguments that have been read name no target but the two that there are. -/
theorem target_of_parseArguments {arguments : List String} {a : Arguments}
    (h : parseArguments arguments = .arguments a) : ∀ name, a.target = some name → name = "llvm" ∨ name = "c" :=
  target_of_parseFrom h

/-- A refused request ends the process before it has looked at anything. -/
theorem run_of_refused {a : Arguments} {message : String} {c : Context} {arguments : List String}
    (hread : parseArguments arguments = .arguments a) (h : a.Refused message) (fuel : Nat) :
    run fuel c arguments = some ⟨2, #[],
      .texts (shown (logFilter c.environment a.verbosity) [.failed message] ++ [usageText]), c.files⟩ := by
  obtain ⟨e, he, rfl⟩ : ∃ e, a.request c.environment = .error e ∧ e.message = message :=
    h.request_error (target_of_parseArguments hread)
  simp only [run, hread, he]
  rfl

theorem request_sensible (env : Environment) {a : Arguments}
    (htarget : ∀ name, a.target = some name → name = "llvm" ∨ name = "c") :
    ((∃ request, a.request env = .ok request) ↔ a.MakesSense) ∧
    (∀ request, a.request env = .ok request → a.AsksFor env request) ∧
    (¬ a.MakesSense → ∃! message, a.Refused message) ∧
    ∀ message, a.Refused message →
      (∃ e, a.request env = .error e ∧ e.message = message) ∧
      ∀ (fuel : Nat) (c : Context) (arguments : List String), parseArguments arguments = .arguments a →
        run fuel c arguments = some ⟨2, #[],
          .texts (shown (logFilter c.environment a.verbosity) [.failed message] ++ [usageText]), c.files⟩ := by
  have hcases := @Arguments.request_cases env a htarget
  refine ⟨⟨?_, ?_⟩, ?_, ?_, ?_⟩
  · rintro ⟨request, hrequest⟩
    rcases hcases with ⟨_, -, hsense, -⟩ | ⟨e, he, -⟩
    · exact hsense
    · rw [he] at hrequest
      cases hrequest
  · intro hsense
    rcases hcases with ⟨request, hrequest, -⟩ | ⟨e, -, hnot, -⟩
    · exact ⟨request, hrequest⟩
    · exact absurd hsense hnot
  · intro request hrequest
    rcases hcases with ⟨request', hrequest', -, hasks⟩ | ⟨e, he, -⟩
    · rw [hrequest] at hrequest'
      cases hrequest'
      exact hasks
    · rw [he] at hrequest
      cases hrequest
  · intro hnot
    rcases hcases with ⟨request, -, hsense, -⟩ | ⟨e, he, -, hrefused⟩
    · exact absurd hsense hnot
    · refine ⟨e.message, hrefused, fun message hother => ?_⟩
      obtain ⟨e', he', rfl⟩ : ∃ e', a.request env = .error e' ∧ e'.message = message :=
        hother.request_error htarget
      rw [he] at he'
      cases he'
      rfl
  · intro message hrefused
    exact ⟨hrefused.request_error htarget, fun fuel c arguments hread => run_of_refused hread hrefused fuel⟩

/-- Numbers with a plus and with zeros in front, and arguments with two faults of which the first counts. -/
theorem request_sensible_plus :
    let sensible : Arguments :=
      ⟨none, some "+.", none, some "+0040", some "c", some "tcc", some "09", false, true, 0⟩
    let faulty : Arguments := ⟨none, some "+.", some "a", some "", none, none, some "4294967296", false, false, 0⟩
    (∃ request, sensible.request ⟨[]⟩ = .ok request ∧ request = ⟨.code "+.", .run, ⟨40, .c, "tcc", 3⟩⟩ ∧
      sensible.AsksFor ⟨[]⟩ request) ∧
    sensible.MakesSense ∧ ¬ faulty.MakesSense ∧
    faulty.Refused "Invalid tape length: . It must be a positive integer." ∧
    ∀ (c : Context), ∃ exit, run 0 c ["--code", "+.", "--out=a", "--tape=", "-O4294967296"] = some exit ∧
      exit.code = 2 ∧ exit.output = #[] ∧ exit.files = c.files := by
  intro sensible faulty
  have hsensible : ∀ name, sensible.target = some name → name = "llvm" ∨ name = "c" := by
    rintro _ ⟨⟩
    exact .inr rfl
  have hfaulty : ∀ name, faulty.target = some name → name = "llvm" ∨ name = "c" := by
    rintro _ ⟨⟩
  obtain ⟨haccepted, hasks, -⟩ := request_sensible ⟨[]⟩ hsensible
  obtain ⟨haccepted', -, hunique, hrefused⟩ := request_sensible ⟨[]⟩ hfaulty
  have hrequest : sensible.request ⟨[]⟩ = .ok ⟨.code "+.", .run, ⟨40, .c, "tcc", 3⟩⟩ := by decide
  have herror : faulty.request ⟨[]⟩ = .error (.invalidTapeLength "") := by decide
  have hnot : ¬ faulty.MakesSense := by
    intro h
    obtain ⟨request, hok⟩ := haccepted'.2 h
    rw [herror] at hok
    cases hok
  obtain ⟨message, hmessage, -⟩ := hunique hnot
  obtain ⟨⟨e, he, htext⟩, hrun⟩ := hrefused message hmessage
  rw [herror] at he
  cases he
  have hsame : message = "Invalid tape length: . It must be a positive integer." := by
    rw [← htext]
    decide
  refine ⟨⟨_, hrequest, rfl, hasks _ hrequest⟩, haccepted.1 ⟨_, hrequest⟩, hnot, hsame ▸ hmessage, fun c => ?_⟩
  have hread : parseArguments ["--code", "+.", "--out=a", "--tape=", "-O4294967296"] = .arguments faulty := by
    decide
  exact ⟨_, hrun 0 c _ hread, rfl, rfl, rfl⟩

end Brainfuck.CommandLine
