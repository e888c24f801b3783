import Brainfuck.Code
/-!
# Generated code is written from linear code

Whatever is reported on the way, the text of a program is the text of its linear code, and a text that is no
source is refused for what is wrong with it.
-/

namespace Brainfuck

theorem Logged.bind_ok {α β : Type} {x : Logged α} {a : α} (h : x.result = .ok a) (f : α → Logged β) :
    (x.bind f).result = (f a).result := by
  obtain ⟨result, events⟩ := x
  obtain rfl : result = .ok a := h
  rfl

theorem Logged.bind_error {α β : Type} {x : Logged α} {e : Error} (h : x.result = .error e) (f : α → Logged β) :
    (x.bind f).result = .error e := by
  obtain ⟨result, events⟩ := x
  obtain rfl : result = .error e := h
  rfl

theorem Source.text_of_ofText {text : String} {source : Source} (h : Source.ofText text = .ok source) :
    source.text = text := by
  rw [ofText] at h
  split at h
  · cases h; rfl
  · cases h

theorem Source.ofText_text (source : Source) : Source.ofText source.text = .ok source := by
  rw [ofText]
  split
  · rfl
  next e h =>
    rw [source.valid] at h
    cases h

theorem Source.ofText_eq_error_iff {text : String} {e : SourceError} :
    Source.ofText text = .error e ↔ SourceError.ofText text = some e := by
  rw [ofText]
  split
  next h => simp [h]
  next e' h => simp [h]

theorem Source.exists_ofText_iff {text : String} :
    (∃ source, Source.ofText text = .ok source) ↔ SourceError.ofText text = none := by
  constructor
  · rintro ⟨source, h⟩
    exact text_of_ofText h ▸ source.valid
  · exact fun h => ⟨⟨text, h⟩, ofText_text ⟨text, h⟩⟩

namespace Code

theorem ofProgram_result_eq (target : Target) (tapeLength : Nat) (program : List Instruction) :
    (ofProgram target tapeLength program).result = (lower tapeLength program).result.map (ofLinear target) := by
  rw [ofProgram]
  cases h : (lower tapeLength program).result with
  | ok code => exact (Logged.bind_ok rfl _).trans (Logged.bind_ok h _)
  | error e => exact (Logged.bind_ok rfl _).trans (Logged.bind_error h _)

theorem ofProgram_result {tapeLength : Nat} {program : List Instruction} {code : List Op}
    (h : (lower tapeLength program).result = .ok code) (target : Target) :
    (ofProgram target tapeLength program).result = .ok (ofLinear target code) := by
  rw [ofProgram_result_eq, h]
  rfl

theorem ofText_of_ok {text : String} {source : Source} (h : Source.ofText text = .ok source) (target : Target)
    (tapeLength : Nat) :
    (ofText target tapeLength text).result = (ofProgram target tapeLength source.instructions).result := by
  have hread : (readSource text).result = .ok source := by
    simp only [readSource, h]
    rfl
  rw [ofText]
  exact (Logged.bind_ok rfl _).trans ((Logged.bind_ok hread _).trans (Logged.bind_ok rfl _))

theorem ofText_of_error {text : String} {e : SourceError} (h : Source.ofText text = .error e) (target : Target)
    (tapeLength : Nat) : (ofText target tapeLength text).result = .error (.source e) := by
  have hread : (readSource text).result = .error (.source e) := by
    simp only [readSource, h]
    rfl
  rw [ofText]
  exact (Logged.bind_ok rfl _).trans (Logged.bind_error hread _)

theorem ofText_result {tapeLength : Nat} {source : Source} {code : List Op}
    (h : (lower tapeLength source.instructions).result = .ok code) (target : Target) :
    (ofText target tapeLength source.text).result = .ok (ofLinear target code) := by
  rw [ofText_of_ok source.ofText_text, ofProgram_result h]

end Code

end Brainfuck
