import Brainfuck.Proofs.Brackets
import Brainfuck.Proofs.Scratch
/-!
# Builds are all or nothing

`build_allOrNothing`: a build runs its driver once and gives the output path what the driver has left, or it fails
and leaves every path as it was. What is wrong with a text or with the options is told before anything happens.
-/

namespace Brainfuck

open FileSystem (ChangesBelow)

/-! ## Links -/

namespace Code

theorem occursIn_iff (part text : List Char) : occursIn part text = true ↔ part <:+: text := by
  induction text with
  | nil => simp [occursIn]
  | cons c rest ih => rw [occursIn, Bool.or_eq_true, List.isPrefixOf_iff_prefix, ih, List.infix_cons_iff]

theorem canLink_iff (driver : String) (target : Target) :
    canLink driver target = true ↔ target = .c ∨ NamesClang driver := by
  cases target with
  | c => simp [canLink]
  | llvm =>
    unfold canLink NamesClang
    cases (Path.ofText driver).fileName? with
    | none => simp
    | some name => simp [occursIn_iff]

theorem launchFailure?_eq_none_iff {launched : Launch} :
    launchFailure? launched = none ↔ ∃ errorOutput, launched = .ended true errorOutput := by
  cases launched with
  | notStarted e => simp [launchFailure?]
  | ended success errorOutput => cases success <;> simp [launchFailure?]

section Finish
variable {toolchain : Toolchain} {target : Target} {path text driver : String} {files prepared after : FileSystem}
  {temporary staging : Location}

theorem finish_allOrNothing (hfiles : files.WellFormed)
    (hnew : (Scratch.forPath toolchain target path files.current).IsNew toolchain path files)
    (h : (Scratch.forPath toolchain target path files.current).Prepares text files prepared temporary staging)
    (hbelow : ChangesBelow staging prepared after) (arguments : List String) (launched : Launch) :
    let s := Scratch.forPath toolchain target path files.current
    let outcome := finish s path driver arguments (launched, after)
    outcome.2.current = files.current ∧
      ((outcome.1.result = .ok () ∧
          ∃ errorOutput goal, launched = .ended true errorOutput ∧
            after.locate s.executable = .ok (staging ++ ["a.out"]) ∧ files.locate path = .ok goal ∧
            ¬ goal <+: temporary ∧ ¬ goal <+: staging ∧
            ∀ loc, outcome.2.node? loc =
              if goal <+: loc then after.node? (staging ++ ["a.out"] ++ loc.drop goal.length) else files.node? loc) ∨
        (∃ e, outcome.1.result = .error e) ∧ ∀ loc, outcome.2.node? loc = files.node? loc) := by
  intro s outcome
  have hkeeps := h.keeps_after hfiles hbelow
  have hcurrent := h.clear_current hfiles hkeeps
  have hclear (loc : Location) : (s.clear after).node? loc = files.node? loc :=
    h.clear_same hfiles hbelow hkeeps fun _ => rfl
  simp only [outcome, finish]
  cases hfailure : launchFailure? launched with
  | some failure => exact ⟨hcurrent, .inr ⟨⟨_, rfl⟩, hclear⟩⟩
  | none =>
    obtain ⟨errorOutput, rfl⟩ := launchFailure?_eq_none_iff.1 hfailure
    cases hrename : systemAnswer path (after.rename s.executable path) with
    | error e => exact ⟨hcurrent, .inr ⟨⟨_, rfl⟩, hclear⟩⟩
    | ok renamed =>
      obtain ⟨origin, goal, horigin, hgoal, hname, hrenamed⟩ :=
        FileSystem.rename_cases (hbelow.wellFormed h.wellFormed) (systemAnswer_ok_iff.1 hrename).2
      obtain ⟨parent, last, hparent, hlast, hdirectory, hlocate⟩ :=
        Scratch.goal_beside hfiles hnew.tag h.located hkeeps hgoal hname
      have hne : goal ≠ temporary := by
        rintro rfl
        exact hnew.path (FileSystem.locateForWriting_ok_iff.1 h.written).1 hlocate
      have hexecutable := Scratch.locate_executable (hkeeps.locate h.located) horigin
      rw [hexecutable] at hrenamed horigin
      obtain ⟨hstaging, -, htemporary, -⟩ := h.goal_apart hfiles hbelow hparent hlast hdirectory hne hrenamed
      have hnode := h.clear_renamed hfiles hbelow hparent hlast hdirectory hne hrenamed
      have hcurrent := h.clear_current hfiles (h.keeps_renamed hfiles hbelow hparent hlast hrenamed)
      exact ⟨hcurrent, .inl ⟨rfl, errorOutput, goal, rfl, horigin, hlocate, htemporary, hstaging, hnode⟩⟩

end Finish

end Code

/-! ## Runs of drivers -/

namespace Logged

variable {m : Type → Type} [Monad m] [LawfulMonad m] {α β : Type} {x : Logged α}

omit [LawfulMonad m] in
theorem thenFiles_of_error {e : Error} (h : x.result = .error e) (task : α → FileTaskIn m β) (files : FileSystem) :
    x.thenFiles task files = Pure.pure (⟨.error e, x.events⟩, files) := by
  obtain ⟨result, events⟩ := x
  obtain rfl : result = .error e := h
  rfl

theorem thenFiles_of_ok {a : α} (h : x.result = .ok a) (task : α → FileTaskIn m β) (files : FileSystem) :
    x.thenFiles task files =
      (fun answer => (⟨answer.1.result, x.events ++ answer.1.events⟩, answer.2)) <$> task a files := by
  obtain ⟨result, events⟩ := x
  obtain rfl : result = .ok a := h
  simp only [thenFiles, map_eq_pure_bind]

end Logged

namespace Options

section Runs
variable {toolchain : Toolchain} {options : Options} {text path : String} {files prepared left : FileSystem}
  {code : Code}

theorem codeOf_target (h : (options.codeOf text).result = .ok code) : code.target = options.target := by
  rw [codeOf] at h
  cases hsource : Source.ofText text with
  | error e =>
    rw [Code.ofText_of_error hsource] at h
    cases h
  | ok source =>
    rw [Code.ofText_of_ok hsource, Code.ofProgram_result_eq] at h
    cases hlower : (lower options.tapeLength source.instructions).result with
    | error e =>
      rw [hlower] at h
      cases h
    | ok linear =>
      rw [hlower] at h
      cases h
      cases options.target <;> rfl

/-- However drivers are run, the build runs none. -/
def AnswersAlone (toolchain : Toolchain) (options : Options) (text path : String) (files : FileSystem)
    (answer : Logged Unit × FileSystem) : Prop :=
  ∀ (m : Type → Type) [Monad m] [LawfulMonad m] (launch : LauncherIn m),
    options.buildIn launch toolchain text path files = pure answer

theorem AnswersAlone.build {answer : Logged Unit × FileSystem}
    (h : AnswersAlone toolchain options text path files answer) :
    options.build toolchain text path files = answer := h Id toolchain.launch

theorem AnswersAlone.driverRuns {answer : Logged Unit × FileSystem}
    (h : AnswersAlone toolchain options text path files answer) :
    options.driverRuns toolchain text path files = [] := by
  rw [Options.driverRuns, h (StateM (List DriverRun)) toolchain.launchRecorded]
  rfl

theorem answersAlone_of_codeOf_error {e : Error} (h : (options.codeOf text).result = .error e) :
    AnswersAlone toolchain options text path files (⟨.error e, (options.codeOf text).events⟩, files) :=
  fun _ _ _ _ => Logged.thenFiles_of_error h _ files

theorem answersAlone_of_linkIn {e : Error} (hcode : (options.codeOf text).result = .ok code)
    (h : ∀ (m : Type → Type) [Monad m] (launch : LauncherIn m),
      code.linkIn launch toolchain path options.driver options.optimizationLevel files = pure (.fail e, left)) :
    AnswersAlone toolchain options text path files (⟨.error e, (options.codeOf text).events⟩, left) := by
  intro m _ _ launch
  rw [buildIn, Logged.thenFiles_of_ok hcode, h, map_pure]
  simp [Logged.fail]

theorem answersAlone_of_not_canLink (hcode : (options.codeOf text).result = .ok code)
    (h : Code.canLink options.driver options.target = false) :
    AnswersAlone toolchain options text path files
      (⟨.error (.toolchain options.driver (.needsClang options.target)), (options.codeOf text).events⟩, files) := by
  refine answersAlone_of_linkIn hcode fun m _ launch => ?_
  rw [Code.linkIn, codeOf_target hcode, h]
  rfl

theorem answersAlone_of_prepare_error {e : IoError} (hcode : (options.codeOf text).result = .ok code)
    (hlink : Code.canLink options.driver options.target = true)
    (h : (options.scratch toolchain path files).prepare code.text files = (.error e, left)) :
    AnswersAlone toolchain options text path files (⟨.error (.io e), (options.codeOf text).events⟩, left) := by
  refine answersAlone_of_linkIn hcode fun m _ launch => ?_
  rw [scratch] at h
  rw [Code.linkIn, codeOf_target hcode, hlink]
  simp only [h]
  rfl

/-- Prepared, the build runs the driver once and makes of the answer what it can. -/
theorem buildIn_of_prepared (hcode : (options.codeOf text).result = .ok code)
    (hlink : Code.canLink options.driver options.target = true)
    (h : (options.scratch toolchain path files).prepare code.text files = (.ok (), prepared))
    {m : Type → Type} [Monad m] [LawfulMonad m] (launch : LauncherIn m) :
    let s := options.scratch toolchain path files
    let arguments := s.arguments options.optimizationLevel
    options.buildIn launch toolchain text path files =
      (fun launched =>
        let answer := Code.finish s path options.driver arguments launched
        (⟨answer.1.result, (options.codeOf text).events ++ answer.1.events⟩, answer.2)) <$>
      launch options.driver arguments prepared := by
  intro s arguments
  have hlinked : code.linkIn launch toolchain path options.driver options.optimizationLevel files =
      Code.finish s path options.driver arguments <$> launch options.driver arguments prepared := by
    rw [scratch] at h
    rw [Code.linkIn, codeOf_target hcode, hlink]
    simp only [h, map_eq_pure_bind]
    rfl
  rw [buildIn, Logged.thenFiles_of_ok hcode, hlinked, Functor.map_map]

theorem build_of_launched (hcode : (options.codeOf text).result = .ok code)
    (hlink : Code.canLink options.driver options.target = true)
    (h : (options.scratch toolchain path files).prepare code.text files = (.ok (), prepared))
    {launched : Launch × FileSystem}
    (hlaunch : toolchain.launch options.driver
      ((options.scratch toolchain path files).arguments options.optimizationLevel) prepared = launched) :
    let s := options.scratch toolchain path files
    let finished := Code.finish s path options.driver (s.arguments options.optimizationLevel) launched
    (options.build toolchain text path files).1.result = finished.1.result ∧
      (options.build toolchain text path files).2 = finished.2 := by
  subst hlaunch
  have hbuild := buildIn_of_prepared hcode hlink h toolchain.launch
  exact ⟨congrArg (fun outcome => outcome.1.result) hbuild, congrArg (fun outcome => outcome.2) hbuild⟩

/-- A build fails before it comes to the driver, at the latest when it prepares its files, or it gets there. -/
theorem build_cases (toolchain : Toolchain) (options : Options) (text path : String) (files : FileSystem) :
    (∃ answer left e, AnswersAlone toolchain options text path files (answer, left) ∧ answer.result = .error e ∧
      (left = files ∨
        ∃ (code : Code) (e : IoError),
          (options.scratch toolchain path files).prepare code.text files = (.error e, left))) ∨
      ∃ code prepared, (options.codeOf text).result = .ok code ∧ Code.canLink options.driver options.target = true ∧
        (options.scratch toolchain path files).prepare code.text files = (.ok (), prepared) := by
  cases hcode : (options.codeOf text).result with
  | error e => exact .inl ⟨_, _, e, answersAlone_of_codeOf_error hcode, rfl, .inl rfl⟩
  | ok code =>
    cases hlink : Code.canLink options.driver options.target with
    | false => exact .inl ⟨_, _, _, answersAlone_of_not_canLink hcode hlink, rfl, .inl rfl⟩
    | true =>
      rcases hprepare : (options.scratch toolchain path files).prepare code.text files with ⟨e | ⟨⟩, left⟩
      · exact .inl ⟨_, left, _, answersAlone_of_prepare_error hcode hlink hprepare, rfl, .inr ⟨code, e, hprepare⟩⟩
      · exact .inr ⟨code, left, rfl, rfl, hprepare⟩

/-- The runs of drivers are those that the build makes on its way to its answer. -/
theorem buildIn_recorded (toolchain : Toolchain) (options : Options) (text path : String) (files : FileSystem) :
    (options.buildIn toolchain.launchRecorded toolchain text path files).run [] =
      (options.build toolchain text path files, options.driverRuns toolchain text path files) := by
  refine Prod.ext ?_ rfl
  rcases build_cases toolchain options text path files with
    ⟨answer, left, e, h, -⟩ | ⟨code, prepared, hcode, hlink, h⟩
  · rw [h.build, h (StateM (List DriverRun))]
    rfl
  · rw [buildIn_of_prepared hcode hlink h, build, buildIn_of_prepared hcode hlink h]
    rfl

end Runs

/-! ## Whole builds -/

section Builds
variable {toolchain : Toolchain} {options : Options} {text path : String} {files prepared after : FileSystem}
  {code : Code}

/-- What is wrong with the text, the tape or the driver is told wherever the build would work. -/
theorem exists_answer_of_refused
    (h : (∃ e, Source.ofText text = .error e) ∨ options.tapeLength = 0 ∨
      options.target = .llvm ∧ ¬ NamesClang options.driver) :
    ∃ answer e, answer.result = .error e ∧ ∀ (toolchain : Toolchain) (path : String) (files : FileSystem),
      AnswersAlone toolchain options text path files (answer, files) := by
  cases hcode : (options.codeOf text).result with
  | error e => exact ⟨_, e, rfl, fun _ _ _ => answersAlone_of_codeOf_error hcode⟩
  | ok code =>
    refine ⟨_, _, rfl, fun _ _ _ => answersAlone_of_not_canLink hcode ?_⟩
    cases hsource : Source.ofText text with
    | error e =>
      rw [codeOf, Code.ofText_of_error hsource] at hcode
      cases hcode
    | ok source =>
      rcases h with ⟨e, he⟩ | hN | ⟨htarget, hdriver⟩
      · rw [hsource] at he
        cases he
      · rw [codeOf_without_tape options hsource hN] at hcode
        cases hcode
      · rw [← Bool.not_eq_true, Code.canLink_iff, htarget]
        simp [hdriver]

/-- A driver that has left a file gets it to where a file can be written. -/
theorem build_succeeds (hfiles : files.WellFormed)
    (hnew : (options.scratch toolchain path files).IsNew toolchain path files)
    (hconfined : toolchain.Confined (options.scratch toolchain path files))
    (hcode : (options.codeOf text).result = .ok code)
    (hlink : Code.canLink options.driver options.target = true)
    (hprepare : (options.scratch toolchain path files).prepare code.text files = (.ok (), prepared))
    {errorOutput : List UInt8}
    (hlaunch : toolchain.launch options.driver
      ((options.scratch toolchain path files).arguments options.optimizationLevel) prepared =
        (.ended true errorOutput, after))
    {content : ByteArray} (hread : after.readFile (options.scratch toolchain path files).executable = .ok content)
    {goal : Location} (hgoal : files.locateForWriting path = .ok goal)
    (hstaging : files.locate (options.scratch toolchain path files).staging ≠ .ok goal)
    (hnul : path.toList.contains '\x00' = false) :
    (options.build toolchain text path files).1.result = .ok () := by
  obtain ⟨temporary, staging, h⟩ := Scratch.exists_prepares hfiles hnew hprepare
  have hbelow := hconfined options.driver options.optimizationLevel prepared staging (h.keeps.locate h.located)
  rw [hlaunch] at hbelow
  have hkeeps := h.keeps_after hfiles hbelow
  obtain ⟨origin, node, horigin, hfits, hnode, hkind⟩ := FileSystem.readFile_ok hread
  obtain ⟨hlocate, hname, hslash, hgoalFits, hold⟩ := FileSystem.locateForWriting_ok_iff.1 hgoal
  have hafter : after.locateForWriting path = .ok goal := by
    refine FileSystem.locateForWriting_ok_iff.2 ⟨hkeeps.locate hlocate, hname, hslash, hgoalFits, ?_⟩
    have hwithin : ¬ staging <+: goal := fun hle =>
      hstaging (FileSystem.eq_of_locateForWriting hfiles hgoal h.staging_new hle ▸ h.located)
    by_cases ht : goal = temporary
    · rw [ht, h.after_temporary hfiles hbelow]
      simp
    · rwa [h.after_node hbelow hwithin ht]
  obtain ⟨renamed, hrename⟩ := FileSystem.exists_rename horigin hfits hnode hkind hafter
  have hanswer := systemAnswer_ok_iff.2 ⟨hnul, hrename⟩
  rw [(build_of_launched hcode hlink hprepare hlaunch).1]
  simp only [Code.finish, Code.launchFailure?, hanswer]

/-- A build that has been prepared is all or nothing. -/
theorem build_of_prepared (hfiles : files.WellFormed)
    (hnew : (options.scratch toolchain path files).IsNew toolchain path files)
    (hconfined : toolchain.Confined (options.scratch toolchain path files))
    (hcode : (options.codeOf text).result = .ok code)
    (hlink : Code.canLink options.driver options.target = true)
    (hprepare : (options.scratch toolchain path files).prepare code.text files = (.ok (), prepared)) :
    let s := options.scratch toolchain path files
    let arguments := s.arguments options.optimizationLevel
    let outcome := options.build toolchain text path files
    options.driverRuns toolchain text path files = [⟨options.driver, arguments, prepared⟩] ∧
    prepared.readFile s.temporary = .ok code.text.toUTF8 ∧
    outcome.2.current = files.current ∧
      ((outcome.1.result = .ok () ∧
          ∃ errorOutput after origin goal,
            toolchain.launch options.driver arguments prepared = (.ended true errorOutput, after) ∧
            after.locate s.executable = .ok origin ∧ files.locate path = .ok goal ∧
            (∀ loc, files.locate s.temporary = .ok loc ∨ files.locate s.staging = .ok loc →
              outcome.2.node? loc = none) ∧
            ∀ loc, outcome.2.node? loc =
              if goal <+: loc then after.node? (origin ++ loc.drop goal.length) else files.node? loc) ∨
        (∃ e, outcome.1.result = .error e) ∧ ∀ loc, outcome.2.node? loc = files.node? loc) := by
  intro s arguments outcome
  obtain ⟨temporary, staging, h⟩ := Scratch.exists_prepares hfiles hnew hprepare
  obtain ⟨htemporary, -, hslash, hfits, -⟩ := FileSystem.locateForWriting_ok_iff.1 h.written
  have hread : prepared.readFile s.temporary = .ok code.text.toUTF8 := by
    have hnode : prepared.node? temporary = some (.file code.text.toUTF8 false) := by
      rw [h.node, if_neg h.apart, if_pos rfl]
    exact FileSystem.readFile_of_file (h.keeps.locate htemporary) hfits hslash hnode
  have hruns : options.driverRuns toolchain text path files = [⟨options.driver, arguments, prepared⟩] := by
    rw [driverRuns, buildIn_of_prepared hcode hlink hprepare]
    rfl
  have hbelow := hconfined options.driver options.optimizationLevel prepared staging (h.keeps.locate h.located)
  rcases hlaunch : toolchain.launch options.driver arguments prepared with ⟨launched, after⟩
  rw [hlaunch] at hbelow
  obtain ⟨hresult, hfinal⟩ : outcome.1.result = _ ∧ outcome.2 = _ := build_of_launched hcode hlink hprepare hlaunch
  obtain ⟨hcurrent, hfinish⟩ := Code.finish_allOrNothing hfiles hnew h hbelow arguments launched
  rw [hresult, hfinal]
  refine ⟨hruns, hread, hcurrent, ?_⟩
  rcases hfinish with ⟨hok, errorOutput, goal, rfl, horigin, hgoal, hgoalTemporary, hgoalStaging, hnode⟩ | hfailed
  · refine .inl ⟨hok, errorOutput, after, _, goal, rfl, horigin, hgoal, fun loc hloc => (hnode loc).trans ?_, hnode⟩
    rcases hloc with hloc | hloc
    · cases htemporary.symm.trans hloc
      rw [if_neg hgoalTemporary, h.temporary_new]
    · cases h.located.symm.trans hloc
      rw [if_neg hgoalStaging, h.staging_new]
  · exact .inr hfailed

theorem build_allOrNothing (toolchain : Toolchain) (options : Options) (text path : String) (files : FileSystem)
    (hfiles : files.WellFormed) (hnew : (options.scratch toolchain path files).IsNew toolchain path files)
    (hconfined : toolchain.Confined (options.scratch toolchain path files)) :
    let s := options.scratch toolchain path files
    let arguments := ["-O" ++ toString (min options.optimizationLevel 3), s.temporary, "-o", s.staging ++ "/a.out"]
    let outcome := options.build toolchain text path files
    outcome.2.current = files.current ∧
    ((outcome.1.result = .ok () ∧
        ∃ code prepared errorOutput after origin goal,
          (options.codeOf text).result = .ok code ∧
          options.driverRuns toolchain text path files = [⟨options.driver, arguments, prepared⟩] ∧
          (∃ stem, s.temporary = stem ++ if options.target = .llvm then ".ll" else ".c") ∧
          prepared.readFile s.temporary = .ok code.text.toUTF8 ∧
          toolchain.launch options.driver arguments prepared = (.ended true errorOutput, after) ∧
          after.locate (s.staging ++ "/a.out") = .ok origin ∧ files.locate path = .ok goal ∧
          (∀ loc, files.locate s.temporary = .ok loc ∨ files.locate s.staging = .ok loc →
            outcome.2.node? loc = none) ∧
          ∀ loc, outcome.2.node? loc =
            if goal <+: loc then after.node? (origin ++ loc.drop goal.length) else files.node? loc) ∨
      (∃ e, outcome.1.result = .error e) ∧ ∀ loc, outcome.2.node? loc = files.node? loc) ∧
    (∀ code prepared errorOutput after content goal,
      (options.codeOf text).result = .ok code → options.target = .c ∨ NamesClang options.driver →
      s.prepare code.text files = (.ok (), prepared) →
      toolchain.launch options.driver arguments prepared = (.ended true errorOutput, after) →
      after.readFile (s.staging ++ "/a.out") = .ok content → files.locateForWriting path = .ok goal →
      files.locate s.staging ≠ .ok goal → path.toList.contains '\x00' = false → outcome.1.result = .ok ()) ∧
    ((∃ e, Source.ofText text = .error e) ∨ options.tapeLength = 0 ∨
        options.target = .llvm ∧ ¬ NamesClang options.driver →
      ∃ answer e, answer.result = .error e ∧ ∀ (toolchain : Toolchain) (path : String) (files : FileSystem),
        options.build toolchain text path files = (answer, files) ∧
          options.driverRuns toolchain text path files = []) := by
  intro s arguments outcome
  have hsuffix : ∃ stem, s.temporary = stem ++ if options.target = .llvm then ".ll" else ".c" := by
    obtain ⟨stem, hstem⟩ := Scratch.temporary_suffix toolchain options.target path files.current
    refine ⟨stem, hstem.trans ?_⟩
    cases options.target <;> rfl
  refine and_assoc.1 ⟨?_, fun code prepared errorOutput after content goal hcode hlink hprepare hlaunch hread hgoal hne
    hnul => ?_, fun hrefused => ?_⟩
  · rcases build_cases toolchain options text path files with
      ⟨answer, left, e, h, he, hleft⟩ | ⟨code, prepared, hcode, hlink, hprepare⟩
    · have houtcome : outcome = (answer, left) := h.build
      have hsame : left.current = files.current ∧ ∀ loc, left.node? loc = files.node? loc := by
        rcases hleft with rfl | ⟨code, e', hprepare⟩
        · exact ⟨rfl, fun _ => rfl⟩
        · exact Scratch.prepare_error hfiles hnew hprepare
      rw [houtcome]
      exact ⟨hsame.1, .inr ⟨⟨e, he⟩, hsame.2⟩⟩
    · obtain ⟨hruns, hread, hcurrent, hbuilt | hfailed⟩ :=
        build_of_prepared hfiles hnew hconfined hcode hlink hprepare
      · obtain ⟨hok, errorOutput, after, origin, goal, hlaunch, horigin, hgoal, hgone, hnode⟩ := hbuilt
        exact ⟨hcurrent, .inl ⟨hok, code, prepared, errorOutput, after, origin, goal, hcode, hruns, hsuffix, hread,
          hlaunch, horigin, hgoal, hgone, hnode⟩⟩
      · exact ⟨hcurrent, .inr hfailed⟩
  · have hcan := (Code.canLink_iff _ _).2 hlink
    exact build_succeeds hfiles hnew hconfined hcode hcan hprepare hlaunch hread hgoal hne hnul
  · obtain ⟨answer, e, he, h⟩ := exists_answer_of_refused hrefused
    exact ⟨answer, e, he, fun toolchain path files =>
      ⟨(h toolchain path files).build, (h toolchain path files).driverRuns⟩⟩

end Builds

end Options

/-! ## A driver -/

/-- Takes the source over as the executable. -/
def copying : Toolchain where
  launch := fun _ arguments files =>
    match arguments with
    | [_, source, _, target] =>
      match files.readFile source >>= files.writeFile target with
      | .ok files => (.ended true [], files)
      | .error _ => (.ended false [], files)
    | _ => (.ended false [], files)
  temporaryDirectory := "/tmp"
  tag := "7"

theorem confined_copying (s : Scratch) : copying.Confined s := by
  intro driver level files staging hstaging
  simp only [copying, Scratch.arguments]
  split
  next files' h =>
    obtain ⟨content, -, h⟩ := FileSystem.bind_ok_iff.1 h
    obtain ⟨loc, node, hloc, rfl⟩ := FileSystem.writeFile_ok h
    obtain ⟨hlocate, -, -, -, hold⟩ := FileSystem.locateForWriting_ok_iff.1 hloc
    obtain rfl := Scratch.locate_executable hstaging hlocate
    refine ⟨rfl, fun {loc} hbelow => ?_, fun hfiles => ?_⟩
    · rw [FileSystem.node?_insert (by simp), if_neg]
      rintro rfl
      simpa using hbelow (List.prefix_append staging _)
    · obtain ⟨parent, last, he, hparent, hlast⟩ := FileSystem.parent_of_locateForWriting hloc
      rw [he] at hold ⊢
      exact hfiles.insert hparent hlast (.inr hold)
  · exact .refl staging files

theorem build_allOrNothing_copying :
    let options : Options := { tapeLength := 1, target := .c, driver := "cc", optimizationLevel := 9 }
    let files : FileSystem :=
      { nodes := [(["tmp"], .directory), (["home"], .directory), (["home", "out"], .file .empty true)]
        current := ["home"] }
    files.WellFormed ∧ (options.scratch copying "out" files).IsNew copying "out" files ∧
      copying.Confined (options.scratch copying "out" files) ∧
      ∃ code, (options.codeOf "+").result = .ok code ∧ (options.build copying "+" "out" files).1.result = .ok () ∧
        (options.build copying "+" "out" files).2.node? ["home", "out"] = some (.file code.text.toUTF8 false) := by
  intro options files
  have hs : options.scratch copying "out" files = ⟨"/tmp/bfcc-7.c", "/home/./.bfcc-7"⟩ :=
    congrArg₂ Scratch.mk (by decide +kernel) (by decide +kernel)
  have hfiles : files.WellFormed := by
    refine FileSystem.wellFormed_of_nodes (fun entry hentry => ?_) rfl
    rcases List.mem_cons.1 hentry with rfl | hentry
    · exact ⟨[], "tmp", rfl, ⟨by decide, by decide, by decide, by decide⟩, rfl⟩
    rcases List.mem_cons.1 hentry with rfl | hentry
    · exact ⟨[], "home", rfl, ⟨by decide, by decide, by decide, by decide⟩, rfl⟩
    · obtain rfl := List.mem_singleton.1 hentry
      exact ⟨["home"], "out", rfl, ⟨by decide, by decide, by decide, by decide⟩, rfl⟩
  have htemporary : files.locate (options.scratch copying "out" files).temporary = .ok ["tmp", "bfcc-7.c"] := by
    rw [hs]
    rfl
  have hgoal : files.locateForWriting "out" = .ok ["home", "out"] := rfl
  have hlocate := (FileSystem.locateForWriting_ok_iff.1 hgoal).1
  have hnew : (options.scratch copying "out" files).IsNew copying "out" files := by
    refine ⟨by decide, fun {loc} hloc => ?_, fun {loc} hloc hpath => ?_⟩
    · cases htemporary.symm.trans hloc
      rfl
    · cases htemporary.symm.trans hloc
      exact absurd (Except.ok.inj (hlocate.symm.trans hpath)) (by decide)
  have hconfined := confined_copying (options.scratch copying "out" files)
  obtain ⟨code, hcode⟩ : ∃ code, (options.codeOf "+").result = .ok code := ⟨_, rfl⟩
  let prepared : FileSystem :=
    { nodes := (["home", ".bfcc-7"], .directory) :: (["tmp", "bfcc-7.c"], .file code.text.toUTF8 false) :: files.nodes
      current := ["home"] }
  let after : FileSystem :=
    { nodes := (["home", ".bfcc-7", "a.out"], .file code.text.toUTF8 false) :: prepared.nodes
      current := ["home"] }
  have hprepare : (options.scratch copying "out" files).prepare code.text files = (.ok (), prepared) := by
    rw [hs]
    rfl
  have hlaunch : copying.launch options.driver
      ((options.scratch copying "out" files).arguments options.optimizationLevel) prepared =
        (.ended true [], after) := by
    rw [hs]
    rfl
  have hread : after.readFile (options.scratch copying "out" files).executable = .ok code.text.toUTF8 := by
    rw [hs]
    rfl
  have hstaging : files.locate (options.scratch copying "out" files).staging ≠ .ok ["home", "out"] := by
    rw [hs]
    exact fun he => absurd (Except.ok.inj he) (by decide)
  obtain ⟨-, hbuilt, hsucceeds, -⟩ := Options.build_allOrNothing copying options "+" "out" files hfiles hnew hconfined
  have hok := hsucceeds code prepared [] after code.text.toUTF8 ["home", "out"] hcode (.inl rfl) hprepare hlaunch hread
    hgoal hstaging (by decide)
  refine ⟨hfiles, hnew, hconfined, code, hcode, hok, ?_⟩
  rcases hbuilt with ⟨-, code', prepared', errorOutput, after', origin, goal, hcode', hruns, -, -, hlaunch', horigin,
    hgoal', -, hnode⟩ | ⟨⟨e, he⟩, -⟩
  · have hruns' := (Options.build_of_prepared hfiles hnew hconfined hcode rfl hprepare).1
    obtain ⟨-, -, rfl⟩ := DriverRun.mk.inj (List.singleton_inj.1 (hruns.symm.trans hruns'))
    obtain ⟨-, rfl⟩ := Prod.mk.inj (hlaunch.symm.trans hlaunch')
    have horigin' : after.locate ((options.scratch copying "out" files).staging ++ "/a.out") =
        .ok ["home", ".bfcc-7", "a.out"] := by
      rw [hs]
      rfl
    cases horigin'.symm.trans horigin
    cases hlocate.symm.trans hgoal'
    rw [hnode, if_pos List.prefix_rfl]
    rfl
  · rw [hok] at he
    cases he

end Brainfuck
