import Brainfuck.CommandLine.Outcome
import Brainfuck.Proofs.Builds
import Brainfuck.Proofs.Conservation
/-!
# The command line does what the library does

`commandLine_agrees`: for an accepted request a process comes out as the library does on the text of the program,
wherever the text comes from and whatever is to be done with it.
-/

namespace Brainfuck

/-! ## Files -/

namespace FileSystem

variable {fs : FileSystem} {path : String}

/-- What is written at a writable path is there to be read. -/
theorem Writable.written (h : fs.Writable path) (content : ByteArray) :
    ∃ fs', fs.writeFile path content = .ok fs' ∧ Written fs fs' path content := by
  obtain ⟨loc, hloc, hdevice⟩ := h.file
  obtain ⟨hlocate, -, hslash, hfits, hkind⟩ := locateForWriting_ok_iff.1 hloc
  obtain ⟨parent, last, hparent, -⟩ := parent_of_locateForWriting hloc
  have hne : loc ≠ [] := by simp [hparent]
  have hwrite : ∃ executable, fs.writeFile path content = .ok (fs.insert loc (.file content executable)) := by
    cases hnode : fs.node? loc with
    | none => exact ⟨false, bind_ok_iff.2 ⟨loc, hloc, by rw [hnode]⟩⟩
    | some node =>
      cases node with
      | file old executable => exact ⟨executable, bind_ok_iff.2 ⟨loc, hloc, by rw [hnode]⟩⟩
      | device d => exact absurd hnode (hdevice d)
      | directory => exact absurd hnode hkind
  obtain ⟨executable, hwrite⟩ := hwrite
  have hkeeps := keepsDirectories_insert hne hkind (.file content executable)
  have hnode : (fs.insert loc (.file content executable)).node? loc = some (.file content executable) := by
    rw [node?_insert hne, if_pos rfl]
  refine ⟨_, hwrite, readFile_of_file (hkeeps.locate hlocate) hfits hslash hnode, rfl, loc, hlocate, ?_⟩
  intro loc' hother
  rw [node?_insert hne, if_neg hother]

end FileSystem

namespace CommandLine

/-! ## What a process does behind its request -/

theorem readOrigin_of_gives {files : FileSystem} {text : String} {origin : Origin} (h : origin.Gives files text) :
    (readOrigin files origin).result = .ok text := by
  cases origin with
  | code given =>
    obtain rfl : given = text := h
    rfl
  | file path =>
    obtain ⟨hnul, hread⟩ := h
    have hanswer : systemAnswer path (files.readFile path) = .ok text.toUTF8 :=
      systemAnswer_ok_iff.2 ⟨by simpa using hnul, hread⟩
    have htext : String.fromUTF8? text.toUTF8 = some text := by
      unfold String.fromUTF8?
      rw [String.toUTF8_eq_toByteArray, dif_pos text.isValidUTF8]
      rfl
    simp only [readOrigin, hanswer, htext]

section Requests
variable {c : Context} {a : Arguments} {request : Request} {arguments : List String} {text : String}
  (hread : parseArguments arguments = .arguments a) (hrequest : a.request c.environment = .ok request)
  (htext : request.origin.Gives c.files text)
include hread hrequest htext

/-- Only the input tells where the text of the program came from. -/
theorem exitsWith_iff {code : Nat} {output : Array UInt8} {files : FileSystem} :
    ExitsWith c arguments code output files ↔
      ∃ fuel x, perform fuel request.action request.options { c with input := c.inputAfter request.origin } text =
          some x ∧
        x.output = output ∧ x.files = files ∧
        (x.logged.result = .ok () ∧ code = 0 ∨ (∃ e, x.logged.result = .error e) ∧ code = 1) := by
  have horigin := readOrigin_of_gives htext
  rcases ho : readOrigin c.files request.origin with ⟨result, events⟩
  rw [ho] at horigin
  obtain rfl : result = .ok text := horigin
  unfold ExitsWith run execute
  simp only [hread, hrequest, ho]
  constructor
  · rintro ⟨fuel, diagnostics, h⟩
    obtain ⟨shown, hshown, hexit⟩ := Option.map_eq_some_iff.1 h
    obtain ⟨x, hx, rfl⟩ := Option.map_eq_some_iff.1 hshown
    dsimp only at hexit
    refine ⟨fuel, x, hx, ?_⟩
    cases hresult : x.logged.result with
    | ok =>
      rw [hresult] at hexit
      cases hexit
      exact ⟨rfl, rfl, .inl ⟨rfl, rfl⟩⟩
    | error e =>
      rw [hresult] at hexit
      cases hexit
      exact ⟨rfl, rfl, .inr ⟨⟨e, rfl⟩, rfl⟩⟩
  · rintro ⟨fuel, x, hx, rfl, rfl, ⟨hresult, rfl⟩ | ⟨⟨e, hresult⟩, rfl⟩⟩
    · refine ⟨fuel, .texts (shown (logFilter c.environment a.verbosity) (events ++ x.logged.events).toList), ?_⟩
      rw [hx, Option.map_some, Option.map_some]
      dsimp only
      rw [hresult]
    · refine ⟨fuel, .texts (shown (logFilter c.environment a.verbosity)
        ((events ++ x.logged.events).push (.failed e.message)).toList), ?_⟩
      rw [hx, Option.map_some, Option.map_some]
      dsimp only
      rw [hresult]
      rfl

/-- An answer that needs no fuel is the only one. -/
theorem exitsWith_silent {answer : Logged Unit × FileSystem}
    (h : ∀ fuel, perform fuel request.action request.options { c with input := c.inputAfter request.origin } text =
      some (.silent answer)) {code : Nat} {output : Array UInt8} {files : FileSystem} :
    ExitsWith c arguments code output files ↔ output = #[] ∧ files = answer.2 ∧
      (answer.1.result = .ok () ∧ code = 0 ∨ (∃ e, answer.1.result = .error e) ∧ code = 1) := by
  rw [exitsWith_iff hread hrequest htext]
  constructor
  · rintro ⟨fuel, x, hx, rfl, rfl, hresult⟩
    rw [h fuel] at hx
    cases hx
    exact ⟨rfl, rfl, hresult⟩
  · rintro ⟨rfl, rfl, hresult⟩
    exact ⟨0, _, h 0, rfl, rfl, hresult⟩

end Requests

/-! ## Interpretation -/

/-- A run keeps its writer. -/
theorem exists_writer {program : List Instruction} {fuel : Nat} {s t : Interpreter} {result : Except Error Unit}
    {writer : Writer} (hs : s.output = some writer) (h : s.run program fuel = some (result, t)) :
    ∃ writer', t.output = some writer' := by
  obtain ⟨history, hrecorded⟩ := Interpreter.Recorded.of_runsInTurn (.next h (.nothing t))
  have hbytes := hrecorded.linked.bytes
  rw [hs] at hbytes
  obtain ⟨writer', hwriter, -⟩ := Option.map_eq_some_iff.1 hbytes
  exact ⟨writer', hwriter⟩

theorem interpret_iff {options : Options} {c : Context} {text : String} {code : Nat} {output : Array UInt8}
    {files : FileSystem} :
    (∃ fuel x, interpret fuel options c text = some x ∧ x.output = output ∧ x.files = files ∧
        (x.logged.result = .ok () ∧ code = 0 ∨ (∃ e, x.logged.result = .error e) ∧ code = 1)) ↔
      Interprets options.tapeLength c.input text code output ∧ files = c.files := by
  cases hsource : Source.ofText text with
  | error e =>
    have hinterpret (fuel : Nat) : interpret fuel options c text =
        some ⟨⟨.error (.source e), Event.ofValidation (.error e)⟩, #[], c.files⟩ := by
      simp only [interpret, readSource, hsource]
      rfl
    constructor
    · rintro ⟨fuel, x, hx, rfl, rfl, hresult⟩
      rw [hinterpret] at hx
      cases hx
      rcases hresult with ⟨hresult, -⟩ | ⟨-, rfl⟩
      · cases hresult
      · exact ⟨.refused hsource, rfl⟩
    · rintro ⟨h, rfl⟩
      cases h with
      | refused => exact ⟨0, _, hinterpret 0, rfl, rfl, .inr ⟨⟨_, rfl⟩, rfl⟩⟩
      | succeeded hok => cases hsource.symm.trans hok
      | failed hok => cases hsource.symm.trans hok
  | ok source =>
    -- What the interpreter of the process does is what the one of the library does.
    have hinterpret (fuel : Nat) : interpret fuel options c text =
        (Interpreter.run source.instructions fuel
          (.create options.tapeLength (some (.ofBytes c.input)) (some .unbounded))).map fun ending =>
            ⟨⟨ending.1, (Event.ofValidation (.ok source)).push (.runningProgram source.instructions.length)⟩,
              (ending.2.output.map (·.bytes)).getD #[], c.files⟩ := by
      simp only [interpret, readSource, hsource, Except.mapError]
      split
      next hrun =>
        rw [hrun]
        rfl
      next hrun =>
        rw [hrun]
        rfl
    constructor
    · rintro ⟨fuel, x, hx, rfl, rfl, hresult⟩
      rw [hinterpret] at hx
      obtain ⟨⟨result, t⟩, hrun, rfl⟩ := Option.map_eq_some_iff.1 hx
      obtain ⟨writer, hwriter⟩ := exists_writer rfl hrun
      dsimp only at hresult ⊢
      rw [hwriter]
      rcases hresult with ⟨rfl, rfl⟩ | ⟨⟨e, rfl⟩, rfl⟩
      · exact ⟨.succeeded hsource hrun hwriter, rfl⟩
      · exact ⟨.failed hsource hrun hwriter, rfl⟩
    · rintro ⟨h, rfl⟩
      cases h with
      | refused herror => cases hsource.symm.trans herror
      | @succeeded source' fuel t writer hok hrun hwriter =>
        cases hsource.symm.trans hok
        refine ⟨fuel, _, (hinterpret fuel).trans (congrArg _ hrun), ?_, rfl, .inl ⟨rfl, rfl⟩⟩
        dsimp only
        rw [hwriter]
        rfl
      | @failed source' fuel e t writer hok hrun hwriter =>
        cases hsource.symm.trans hok
        refine ⟨fuel, _, (hinterpret fuel).trans (congrArg _ hrun), ?_, rfl, .inr ⟨⟨e, rfl⟩, rfl⟩⟩
        dsimp only
        rw [hwriter]
        rfl

/-! ## All actions -/

/-- Only a program that is read from the input takes the input away. -/
theorem inputAfter_cases (c : Context) (origin : Origin) : c.inputAfter origin = c.input ∨
    c.inputAfter origin = [] ∧ ∃ path loc content, origin = .file path ∧
      c.files.find path = .ok (loc, .device (.input content)) := by
  cases origin with
  | code text => exact .inl rfl
  | file path =>
    unfold Context.inputAfter
    dsimp only
    split
    next loc content hfind => exact .inr ⟨rfl, path, loc, content, rfl, hfind⟩
    next => exact .inl rfl

section Actions
variable {c : Context} {a : Arguments} {request : Request} {arguments : List String} {text path : String}
  (hread : parseArguments arguments = .arguments a) (hrequest : a.request c.environment = .ok request)
  (htext : request.origin.Gives c.files text)
include hread hrequest htext

theorem exitsWith_run (haction : request.action = .run) {code : Nat} {output : Array UInt8} {files : FileSystem} :
    ExitsWith c arguments code output files ↔
      Interprets request.options.tapeLength (c.inputAfter request.origin) text code output ∧ files = c.files := by
  rw [exitsWith_iff hread hrequest htext, haction]
  exact interpret_iff

theorem exitsJustWith_emitSource_error (haction : request.action = .emitSource path) {e : Error}
    (hcode : (request.options.codeOf text).result = .error e) : ExitsJustWith c arguments 1 #[] c.files := by
  intro code output files
  rw [exitsWith_silent hread hrequest htext fun fuel => by
    rw [haction, perform, Logged.thenFiles_of_error hcode]]
  constructor
  · rintro ⟨rfl, rfl, ⟨hresult, -⟩ | ⟨-, rfl⟩⟩
    · cases hresult
    · exact ⟨rfl, rfl, rfl⟩
  · rintro ⟨rfl, rfl, rfl⟩
    exact ⟨rfl, rfl, .inr ⟨⟨e, rfl⟩, rfl⟩⟩

theorem exitsJustWith_emitSource (haction : request.action = .emitSource path) {generated : Code}
    (hcode : (request.options.codeOf text).result = .ok generated) (hpath : c.files.Writable path) :
    ∃ files, ExitsJustWith c arguments 0 #[] files ∧ c.files.Written files path generated.text.toUTF8 := by
  obtain ⟨files, hwrite, hwritten⟩ := hpath.written generated.text.toUTF8
  refine ⟨files, fun code output files' => ?_, hwritten⟩
  have hanswer : systemAnswer path (c.files.writeFile path generated.text.toUTF8) = .ok files :=
    systemAnswer_ok_iff.2 ⟨by simpa using hpath.noNul, hwrite⟩
  rw [exitsWith_silent hread hrequest htext fun fuel => by
    rw [haction, perform, Logged.thenFiles_of_ok hcode, Code.write, hanswer]]
  constructor
  · rintro ⟨rfl, rfl, ⟨-, rfl⟩ | ⟨⟨e, hresult⟩, -⟩⟩
    · exact ⟨rfl, rfl, rfl⟩
    · cases hresult
  · rintro ⟨rfl, rfl, rfl⟩
    exact ⟨rfl, rfl, .inl ⟨rfl, rfl⟩⟩

theorem exitsWith_executable (haction : request.action = .executable path) {code : Nat} {output : Array UInt8}
    {files : FileSystem} :
    ExitsWith c arguments code output files ↔
      output = #[] ∧ files = (request.options.build c.toolchain text path c.files).2 ∧
        ((request.options.build c.toolchain text path c.files).1.result = .ok () ∧ code = 0 ∨
          (∃ e, (request.options.build c.toolchain text path c.files).1.result = .error e) ∧ code = 1) :=
  exitsWith_silent hread hrequest htext fun _ => by rw [haction, perform]

/-- With the same input left, it does not matter where the text comes from. -/
theorem exitsWith_of_gives {a' : Arguments} {request' : Request} {arguments' : List String}
    (hread' : parseArguments arguments' = .arguments a') (hrequest' : a'.request c.environment = .ok request')
    (htext' : request'.origin.Gives c.files text) (haction : request'.action = request.action)
    (hoptions : request'.options = request.options)
    (hinput : c.inputAfter request'.origin = c.inputAfter request.origin) {code : Nat} {output : Array UInt8}
    {files : FileSystem} :
    ExitsWith c arguments' code output files ↔ ExitsWith c arguments code output files := by
  rw [exitsWith_iff hread hrequest htext, exitsWith_iff hread' hrequest' htext', haction, hoptions, hinput]

end Actions

end CommandLine

end Brainfuck
