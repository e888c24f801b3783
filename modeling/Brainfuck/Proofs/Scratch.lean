import Brainfuck.Proofs.FileSystem
/-!
# Scratch files come and go

`exists_prepares`: what stands where once the scratch files of a build have been made. `prepare_error`: nothing has
changed when they could not be made. `Prepares.clear_same`: when a driver has written below the staging directory and
the scratch files are taken away, everything is as it was. `Prepares.clear_renamed`: the same, but for the path that
the executable was given before.
-/

namespace Brainfuck

open FileSystem (ChangesBelow KeepsDirectories NameFits Renamed)

/-! ## Preparation -/

theorem systemAnswer_ok_iff {α : Type} {path : String} {answer : Except SystemError α} {a : α} :
    systemAnswer path answer = .ok a ↔ path.toList.contains '\x00' = false ∧ answer = .ok a := by
  unfold systemAnswer
  cases path.toList.contains '\x00' with
  | true => simp
  | false => cases answer <;> simp [Except.mapError]

namespace Scratch

/-- The scratch files have been prepared: the temporary file holds the text, the staging directory is empty, and nothing
else is new. -/
structure Prepares (s : Scratch) (text : String) (files prepared : FileSystem) (temporary staging : Location) :
    Prop where
  written : files.locateForWriting s.temporary = .ok temporary
  temporary_new : files.node? temporary = none
  located : files.locate s.staging = .ok staging
  fits : NameFits staging
  staging_new : files.node? staging = none
  apart : temporary ≠ staging
  current : prepared.current = files.current
  node : ∀ loc, prepared.node? loc =
    if loc = staging then some .directory
    else if loc = temporary then some (.file text.toUTF8 false)
    else files.node? loc
  wellFormed : prepared.WellFormed

theorem prepare_ok {s : Scratch} {text : String} {files prepared : FileSystem}
    (h : s.prepare text files = (.ok (), prepared)) :
    ∃ wrote, files.writeFile s.temporary text.toUTF8 = .ok wrote ∧ wrote.createDirectory s.staging = .ok prepared := by
  unfold prepare at h
  split at h
  · cases h
  next wrote hwrote =>
    split at h
    · cases h
    next created hcreated =>
      cases h
      exact ⟨wrote, hwrote, (systemAnswer_ok_iff.1 hcreated).2⟩

/-- Where a file is new, no directory has been one. -/
theorem keeps_insert_file {files : FileSystem} {loc : Location} (hnone : files.node? loc = none) (content : ByteArray) :
    KeepsDirectories files (files.insert loc (.file content false)) :=
  FileSystem.keepsDirectories_insert (FileSystem.ne_nil_of_none hnone) (by rw [hnone]; exact nofun) _

/-- Preparation that fails leaves nothing behind. -/
theorem prepare_error {s : Scratch} {toolchain : Toolchain} {path text : String} {files left : FileSystem} {e : IoError}
    (hfiles : files.WellFormed) (hnew : s.IsNew toolchain path files)
    (h : s.prepare text files = (.error e, left)) :
    left.current = files.current ∧ ∀ loc, left.node? loc = files.node? loc := by
  unfold prepare at h
  split at h
  · cases h
    exact ⟨rfl, fun _ => rfl⟩
  next wrote hwrote =>
    split at h
    · cases h
      obtain ⟨temporary, htemporary, hnone, rfl⟩ := FileSystem.writeFile_new hwrote fun hl => hnew.temporary hl
      have hne := FileSystem.ne_nil_of_none hnone
      have hlocate := (keeps_insert_file hnone text.toUTF8).locate (FileSystem.locateForWriting_ok_iff.1 htemporary).1
      rw [FileSystem.eraseAt, hlocate]
      refine ⟨rfl, fun loc => ?_⟩
      dsimp only
      rw [FileSystem.node?_eraseTree hne]
      split_ifs with hle
      · rw [hfiles.none_of_le hnone hle]
      · rw [FileSystem.node?_insert hne, if_neg (FileSystem.ne_of_not_within hle)]
    · cases h

section Preparation
variable {toolchain : Toolchain} {target : Target} {path text : String} {files prepared : FileSystem}
  (hfiles : files.WellFormed)
include hfiles

theorem current_names : ∀ name ∈ files.current, IsName name :=
  fun _ hname => hfiles.isName (by rw [hfiles.current]; rfl) hname

theorem current_pieces : ∀ name ∈ files.current, name ≠ "" ∧ '/' ∉ name.toList :=
  fun name hname => ⟨(current_names hfiles name hname).nonempty, (current_names hfiles name hname).noSlash⟩

theorem exists_prepares (hnew : (forPath toolchain target path files.current).IsNew toolchain path files)
    (h : (forPath toolchain target path files.current).prepare text files = (.ok (), prepared)) :
    ∃ temporary staging,
      (forPath toolchain target path files.current).Prepares text files prepared temporary staging := by
  have hnames := current_pieces hfiles
  have hstagingPieces := pieces_staging hnew.tag hnames target path
  have hstagingName := isName_stagingName hnew.tag
  generalize forPath toolchain target path files.current = s at *
  obtain ⟨wrote, hwrote, hcreated⟩ := prepare_ok h
  obtain ⟨temporary, htemporary, hnone, rfl⟩ := FileSystem.writeFile_new hwrote fun hl => hnew.temporary hl
  obtain ⟨parent, last, rfl, hparent, hlast⟩ := FileSystem.parent_of_locateForWriting htemporary
  have hwrote : (files.insert (parent ++ [last]) (.file text.toUTF8 false)).WellFormed :=
    hfiles.insert hparent hlast (.inr (by simp [hnone]))
  have hnode (loc : Location) : (files.insert (parent ++ [last]) (.file text.toUTF8 false)).node? loc =
      if loc = parent ++ [last] then some (.file text.toUTF8 false) else files.node? loc :=
    FileSystem.node?_insert (FileSystem.ne_nil_of_none hnone) _ loc
  obtain ⟨staging, hstaging, hfits, hfree, rfl⟩ := FileSystem.createDirectory_ok_iff.1 hcreated
  -- No directory is new in front of the staging directory, so its path led there before.
  have hkeeps : KeepsDirectories (files.insert (parent ++ [last]) (.file text.toUTF8 false)) files := by
    refine ⟨rfl, fun {loc} hloc => ?_⟩
    rw [hnode] at hloc
    split at hloc
    · cases hloc
    · exact hloc
  have hapart : parent ++ [last] ≠ staging := by
    rintro rfl
    rw [hnode, if_pos rfl] at hfree
    cases hfree
  obtain ⟨next, -, hnext, -, rfl, -⟩ :=
    FileSystem.locate_name hstaging hstagingPieces hstagingName.ne_dot hstagingName.ne_dots
  refine ⟨parent ++ [last], next ++ [stagingName toolchain], htemporary, hnone, hkeeps.locate hstaging, hfits, ?_,
    hapart, rfl, fun loc => ?_, hwrote.insert hnext hstagingName (.inl rfl)⟩
  · rw [hnode, if_neg hapart.symm] at hfree
    exact hfree
  · rw [FileSystem.node?_insert (by simp), hnode]

end Preparation

/-! ## Behind the driver -/

section Behind
variable {s : Scratch} {text : String} {files prepared after fs : FileSystem} {temporary staging loc : Location}
  (h : s.Prepares text files prepared temporary staging) (hfiles : files.WellFormed)
  (hbelow : ChangesBelow staging prepared after)

include h

theorem Prepares.keeps : KeepsDirectories files prepared := by
  refine ⟨h.current, fun {loc} hloc => ?_⟩
  rw [h.node]
  split_ifs with hs ht
  · rfl
  · rw [ht, h.temporary_new] at hloc
    cases hloc
  · exact hloc

include hbelow in
theorem Prepares.after_node (hs : ¬ staging <+: loc) (ht : loc ≠ temporary) : after.node? loc = files.node? loc := by
  rw [hbelow.elsewhere fun hle => absurd hle hs, h.node, if_neg (FileSystem.ne_of_not_within hs), if_neg ht]

include hfiles

theorem Prepares.not_within : ¬ staging <+: temporary :=
  fun hle => h.apart (FileSystem.eq_of_locateForWriting hfiles h.written h.staging_new hle)

include hbelow

theorem Prepares.after_temporary : after.node? temporary = some (.file text.toUTF8 false) := by
  rw [hbelow.elsewhere fun hle => absurd hle (h.not_within hfiles), h.node, if_neg h.apart, if_pos rfl]

theorem Prepares.keeps_after : KeepsDirectories files after := by
  refine ⟨hbelow.current.trans h.current, fun {loc} hloc => ?_⟩
  have ht := FileSystem.ne_of_not_within (hfiles.not_within h.temporary_new hloc)
  rw [h.after_node hbelow (hfiles.not_within h.staging_new hloc) ht, hloc]

omit hbelow

/-- The scratch files are taken away wherever no directory has been lost. -/
theorem Prepares.clear_eq (hkeeps : KeepsDirectories files fs) :
    s.clear fs = (fs.eraseTree staging).eraseTree temporary := by
  have herased : KeepsDirectories files (fs.eraseTree staging) := by
    refine ⟨hkeeps.current, fun {loc} hloc => ?_⟩
    rw [FileSystem.node?_eraseTree (FileSystem.ne_nil_of_none h.staging_new),
      if_neg (hfiles.not_within h.staging_new hloc)]
    exact hkeeps.directory hloc
  have htemporary := herased.locate (FileSystem.locateForWriting_ok_iff.1 h.written).1
  simp only [clear, FileSystem.eraseAt, hkeeps.locate h.located, htemporary]

theorem Prepares.clear_node (hkeeps : KeepsDirectories files fs) (loc : Location) :
    (s.clear fs).node? loc = if staging <+: loc ∨ temporary <+: loc then none else fs.node? loc := by
  rw [h.clear_eq hfiles hkeeps, FileSystem.node?_eraseTree (FileSystem.ne_nil_of_none h.temporary_new),
    FileSystem.node?_eraseTree (FileSystem.ne_nil_of_none h.staging_new)]
  by_cases hs : staging <+: loc <;> by_cases ht : temporary <+: loc <;> simp [hs, ht]

theorem Prepares.clear_current (hkeeps : KeepsDirectories files fs) : (s.clear fs).current = files.current := by
  rw [h.clear_eq hfiles hkeeps]
  exact hkeeps.current

/-- Without the scratch files, what is as the driver has left it is as it was. -/
theorem Prepares.clear_same (hbelow : ChangesBelow staging prepared after) (hkeeps : KeepsDirectories files fs)
    (hsame : ¬ staging <+: loc → fs.node? loc = after.node? loc) : (s.clear fs).node? loc = files.node? loc := by
  rw [h.clear_node hfiles hkeeps]
  split_ifs with hle
  · rcases hle with hle | hle
    · rw [hfiles.none_of_le h.staging_new hle]
    · rw [hfiles.none_of_le h.temporary_new hle]
  · rw [not_or] at hle
    rw [hsame hle.1, h.after_node hbelow hle.1 (FileSystem.ne_of_not_within hle.2)]

end Behind

/-! ## Where the executable goes -/

section Goal
variable {toolchain : Toolchain} {target : Target} {path : String} {files after : FileSystem} {staging goal : Location}

/-- The executable and the staging directory go into the same directory, which was there before. -/
theorem goal_beside (hfiles : files.WellFormed) (htag : '/' ∉ toolchain.tag.toList)
    (hstaging : files.locate (forPath toolchain target path files.current).staging = .ok staging)
    (hkeeps : KeepsDirectories files after) (hgoal : after.locate path = .ok goal)
    (hname : FileSystem.endsInName path = true) :
    ∃ parent last, staging = parent ++ [stagingName toolchain] ∧ goal = parent ++ [last] ∧
      files.node? parent = some .directory ∧ files.locate path = .ok goal := by
  obtain ⟨above, last, hpieces, hdot, hdots⟩ := FileSystem.endsInName_iff.1 hname
  obtain ⟨above', hstagingPieces, habove⟩ :=
    pieces_staging_of_name htag (current_pieces hfiles) target hpieces hdot
  have hstagingName := isName_stagingName htag
  obtain ⟨parent, hwalk, hparent, hfits, rfl, -⟩ :=
    FileSystem.locate_name hstaging hstagingPieces hstagingName.ne_dot hstagingName.ne_dots
  have hroot : files.start (forPath toolchain target path files.current).staging = [] := by
    rw [FileSystem.start, forPath, absolute_absolute, if_pos rfl]
  rw [hroot, List.foldlM_append, FileSystem.bind_ok_iff] at hwalk
  obtain ⟨middle, hmiddle, hwalk⟩ := hwalk
  -- The walk to the staging directory comes through the place where the path begins.
  obtain rfl : middle = files.start path := by
    rw [FileSystem.start]
    split_ifs at hmiddle ⊢
    · cases hmiddle
      rfl
    · exact FileSystem.walk_names (current_names hfiles) hmiddle
  have hpath : above.foldlM files.enter (files.start path) = .ok parent := by
    rcases habove with rfl | ⟨rfl, rfl⟩
    · exact hwalk
    · rw [List.foldlM_cons, FileSystem.bind_ok_iff] at hwalk
      obtain ⟨next, he, hnext⟩ := hwalk
      cases hnext
      obtain ⟨-, -, rfl⟩ := FileSystem.enter_ok_iff.1 he
      rfl
  have hstart : after.start path = files.start path := by rw [FileSystem.start, FileSystem.start, hkeeps.current]
  obtain ⟨parent', hwalk', -, -, rfl, -⟩ := FileSystem.locate_name hgoal hpieces hdot hdots
  rw [hstart, hkeeps.walk hpath] at hwalk'
  cases hwalk'
  obtain ⟨hne, hsize, -⟩ := FileSystem.locate_ok_iff.1 hgoal
  refine ⟨parent, last, rfl, rfl, hparent, FileSystem.locate_ok_iff.2 ⟨hne, hsize, ?_⟩⟩
  rw [hpieces, List.foldlM_append, FileSystem.bind_ok_iff]
  refine ⟨parent, hpath, ?_⟩
  rw [List.foldlM_cons, FileSystem.bind_ok_iff]
  exact ⟨_, FileSystem.enter_ok_iff.2 ⟨hparent, hfits, FileSystem.further_of_name hdot hdots⟩, rfl⟩

theorem locate_executable {s : Scratch} {fs : FileSystem} (hstaging : fs.locate s.staging = .ok staging)
    (hexecutable : fs.locate s.executable = .ok goal) : goal = staging ++ ["a.out"] := by
  obtain ⟨hne, -, hwalk⟩ := FileSystem.locate_ok_iff.1 hstaging
  obtain ⟨parent, hwalk', -, -, rfl, -⟩ :=
    FileSystem.locate_name hexecutable (pieces_executable s) (by decide) (by decide)
  have hstart : fs.start s.executable = fs.start s.staging := by
    rw [FileSystem.start, FileSystem.start, executable, Path.ofText_append_absolute hne]
  rw [hstart, hwalk] at hwalk'
  cases hwalk'
  rfl

end Goal

/-! ## When the executable has its path -/

section Renaming
variable {s : Scratch} {text : String} {files prepared after renamed : FileSystem}
  {temporary staging goal parent loc : Location} {name last : String}
  (h : s.Prepares text files prepared temporary staging) (hfiles : files.WellFormed)
  (hbelow : ChangesBelow staging prepared after) (hstaging : staging = parent ++ [name])
  (hgoal : goal = parent ++ [last]) (hparent : files.node? parent = some .directory) (htemporary : goal ≠ temporary)
  (hrenamed : Renamed after renamed (staging ++ ["a.out"]) goal)

include hstaging hgoal hrenamed in
theorem nothing_below_goal (hle : goal <+: loc) (hne : loc ≠ goal) : after.node? loc = none := by
  refine hrenamed.empty ?_ hle hne
  rw [hgoal, hstaging]
  simp

include hstaging hgoal hrenamed in
/-- The executable cannot replace the directory it stands in. -/
theorem goal_ne_staging : goal ≠ staging := by
  rintro rfl
  have hsome := hrenamed.exists_origin
  rw [nothing_below_goal hstaging hgoal hrenamed (List.prefix_append _ _) (by simp)] at hsome
  cases hsome

include h hfiles hbelow hstaging hgoal hparent htemporary hrenamed

/-- Neither scratch file is at or below the goal, nor the goal below one of them. -/
theorem Prepares.goal_apart :
    ¬ goal <+: staging ∧ ¬ staging <+: goal ∧ ¬ goal <+: temporary ∧ ¬ temporary <+: goal := by
  have hne := goal_ne_staging hstaging hgoal hrenamed
  have hlength : goal.length = staging.length := by simp [hgoal, hstaging]
  refine ⟨fun hle => hne (hle.eq_of_length hlength), fun hle => hne (hle.eq_of_length hlength.symm).symm,
    fun hle => ?_, fun hle => ?_⟩
  · have hnone := nothing_below_goal hstaging hgoal hrenamed hle htemporary.symm
    rw [h.after_temporary hfiles hbelow] at hnone
    cases hnone
  · rcases List.prefix_concat_iff.1 (hgoal ▸ hle) with he | hle
    · exact htemporary (hgoal.trans he.symm)
    · exact hfiles.not_within h.temporary_new hparent hle

omit hparent htemporary in
theorem Prepares.keeps_renamed : KeepsDirectories files renamed := by
  refine ⟨(hrenamed.current.trans hbelow.current).trans h.current, fun {loc} hloc => ?_⟩
  have hafter := (h.keeps_after hfiles hbelow).directory hloc
  rw [hrenamed.node]
  split_ifs with hg ho
  · by_cases hne : loc = goal
    · rw [hne, List.drop_length, List.append_nil]
      exact hrenamed.directory (hne ▸ hafter)
    · rw [nothing_below_goal hstaging hgoal hrenamed hg hne] at hafter
      cases hafter
  · exact absurd ((List.prefix_append _ _).trans ho) (hfiles.not_within h.staging_new hloc)
  · exact hafter

theorem Prepares.clear_renamed (loc : Location) : (s.clear renamed).node? loc =
    if goal <+: loc then after.node? (staging ++ ["a.out"] ++ loc.drop goal.length) else files.node? loc := by
  obtain ⟨hgs, hsg, hgt, htg⟩ := h.goal_apart hfiles hbelow hstaging hgoal hparent htemporary hrenamed
  have hkeeps := h.keeps_renamed hfiles hbelow hstaging hgoal hrenamed
  by_cases hg : goal <+: loc
  · have hs : ¬ staging <+: loc := fun hle => (List.prefix_or_prefix_of_prefix hg hle).elim hgs hsg
    have ht : ¬ temporary <+: loc := fun hle => (List.prefix_or_prefix_of_prefix hg hle).elim hgt htg
    rw [h.clear_node hfiles hkeeps, hrenamed.node, if_neg (not_or.2 ⟨hs, ht⟩), if_pos hg, if_pos hg]
  · rw [if_neg hg]
    refine h.clear_same hfiles hbelow hkeeps fun hs => ?_
    rw [hrenamed.node, if_neg hg, if_neg fun ho => hs ((List.prefix_append _ _).trans ho)]

end Renaming

end Scratch

end Brainfuck
