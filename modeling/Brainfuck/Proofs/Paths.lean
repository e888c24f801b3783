import Brainfuck.Build.Runs
/-!
# Pieces of paths

The pieces of composed paths: `pieces_slash`, `pieces_inDirectory`, `pieces_absolute`. `pieces_staging`: the staging
directory stands next to where a path leads.
-/

namespace Brainfuck

/-! ## Texts between slashes -/

theorem splitSlashes_ne_nil (text : List Char) : splitSlashes text ≠ [] := by
  fun_cases splitSlashes text <;> simp

theorem splitSlashes_append (a b : List Char) : splitSlashes (a ++ '/' :: b) = splitSlashes a ++ splitSlashes b := by
  induction a with
  | nil => simp [splitSlashes]
  | cons c rest ih =>
    by_cases hc : c = '/'
    · simp [splitSlashes, hc, ih]
    · obtain ⟨piece, pieces, hsplit⟩ := List.exists_cons_of_ne_nil (splitSlashes_ne_nil rest)
      simp [splitSlashes, hc, ih, hsplit]

theorem splitSlashes_of_noSlash {text : List Char} (h : '/' ∉ text) : splitSlashes text = [text] := by
  induction text with
  | nil => rfl
  | cons c rest ih =>
    obtain ⟨hc, hrest⟩ := not_or.1 (mt List.mem_cons.2 h)
    simp [splitSlashes, Ne.symm hc, ih hrest]

theorem noSlash_of_mem_splitSlashes {text piece : List Char} (h : piece ∈ splitSlashes text) : '/' ∉ piece := by
  induction text generalizing piece with
  | nil => simp_all [splitSlashes]
  | cons c rest ih =>
    by_cases hc : c = '/'
    · simp only [splitSlashes, if_pos hc, List.mem_cons] at h
      rcases h with rfl | h
      · exact List.not_mem_nil
      · exact ih h
    · obtain ⟨first, pieces, hsplit⟩ := List.exists_cons_of_ne_nil (splitSlashes_ne_nil rest)
      simp only [splitSlashes, if_neg hc, hsplit, List.mem_cons] at h ih
      rcases h with rfl | h
      · rw [List.mem_cons, not_or]
        exact ⟨Ne.symm hc, ih (.inl rfl)⟩
      · exact ih (.inr h)

namespace Path

theorem ofText_slash_pieces (a b : String) :
    (ofText (a ++ "/" ++ b)).pieces = (ofText a).pieces ++ (ofText b).pieces := by
  have e : (a ++ "/" ++ b).toList = a.toList ++ '/' :: b.toList := by simp
  simp only [ofText, e, splitSlashes_append, List.filter_append, List.map_append]

theorem ofText_append_absolute {a : String} (ha : a ≠ "") (b : String) :
    (ofText (a ++ b)).absolute = (ofText a).absolute := by
  obtain ⟨c, rest, hc⟩ := List.exists_cons_of_ne_nil (mt String.toList_eq_nil_iff.1 ha)
  simp [ofText, hc]

theorem pieces_of_noSlash {name : String} (hne : name ≠ "") (h : '/' ∉ name.toList) :
    (ofText name).pieces = [name] := by
  have hname : name.toList ≠ [] := mt String.toList_eq_nil_iff.1 hne
  simp [ofText, splitSlashes_of_noSlash h, hname]

theorem pieces_empty : (ofText "").pieces = [] := by decide

theorem mem_pieces {text piece : String} (h : piece ∈ (ofText text).pieces) : piece ≠ "" ∧ '/' ∉ piece.toList := by
  obtain ⟨chars, hchars, rfl⟩ := List.mem_map.1 h
  obtain ⟨hmem, hne⟩ := List.mem_filter.1 hchars
  rw [String.toList_ofList]
  refine ⟨fun he => ?_, noSlash_of_mem_splitSlashes hmem⟩
  have hnil : chars = [] := by simpa using congrArg String.toList he
  simp [hnil] at hne

theorem pieces_intercalate (texts : List String) :
    (ofText ("/".intercalate texts)).pieces = texts.flatMap fun text => (ofText text).pieces := by
  induction texts with
  | nil => exact pieces_empty
  | cons text rest ih =>
    cases rest with
    | nil => rw [String.intercalate_singleton, List.flatMap_singleton]
    | cons next rest =>
      rw [String.intercalate_cons_cons, ofText_slash_pieces, ih]
      rfl

theorem flatMap_pieces {names : List String} (h : ∀ name ∈ names, name ≠ "" ∧ '/' ∉ name.toList) :
    (names.flatMap fun name => (ofText name).pieces) = names := by
  induction names with
  | nil => rfl
  | cons name rest ih =>
    obtain ⟨hne, hslash⟩ := h name List.mem_cons_self
    rw [List.flatMap_cons, pieces_of_noSlash hne hslash, ih fun n hn => h n (List.mem_cons_of_mem _ hn),
      List.singleton_append]

/-! ## The directory above -/

theorem trimmed_eq {p : Path} {above : List String} {last : String} (h : p.pieces = above ++ [last])
    (hlast : last ≠ ".") : p.trimmed = above ++ [last] := by
  simp [trimmed, h, hlast]

theorem absolute_intercalate {names : List String} (h : ∀ name ∈ names, name ≠ "" ∧ '/' ∉ name.toList) :
    (ofText ("/".intercalate names)).absolute = false := by
  cases names with
  | nil => decide
  | cons name rest =>
    obtain ⟨hne, hslash⟩ := h name List.mem_cons_self
    have hname : (ofText name).absolute = false := by
      obtain ⟨c, chars, hc⟩ := List.exists_cons_of_ne_nil (mt String.toList_eq_nil_iff.1 hne)
      rw [hc] at hslash
      simp only [List.mem_cons, not_or] at hslash
      simp [ofText, hc, Ne.symm hslash.1]
    cases rest with
    | nil => rw [String.intercalate_singleton, hname]
    | cons next rest => rw [String.intercalate_cons_cons, String.append_assoc, ofText_append_absolute hne, hname]

/-- The text of the directory above leads where the path leads without its last name. -/
theorem parentText_pieces {path : String} {above : List String} {last : String}
    (h : (ofText path).pieces = above ++ [last]) (hlast : last ≠ ".") :
    (ofText (ofText path).parentText).absolute = (ofText path).absolute ∧
      ((ofText (ofText path).parentText).pieces = above ∨
        above = [] ∧ (ofText (ofText path).parentText).pieces = ["."]) := by
  have htrimmed := trimmed_eq h hlast
  have hnames : ∀ name ∈ above, name ≠ "" ∧ '/' ∉ name.toList :=
    fun name hname => mem_pieces (h ▸ List.mem_append_left _ hname)
  rw [parentText, htrimmed, List.dropLast_concat]
  cases above with
  | nil =>
    have hne : ([last] : List String).isEmpty = false := rfl
    dsimp only
    rw [List.nil_append, hne]
    cases (ofText path).absolute with
    | true => exact ⟨by decide, .inl (by decide)⟩
    | false => exact ⟨by decide, .inr ⟨rfl, by decide⟩⟩
  | cons name rest =>
    cases (ofText path).absolute with
    | true =>
      dsimp only
      have hslash := ofText_slash_pieces "" ("/".intercalate (name :: rest))
      rw [String.empty_append, pieces_empty, List.nil_append] at hslash
      refine ⟨?_, .inl ?_⟩
      · rw [if_pos rfl, ofText_append_absolute (by decide)]
        decide
      · rw [if_pos rfl, hslash, pieces_intercalate, flatMap_pieces hnames]
    | false =>
      dsimp only
      rw [if_neg (by decide), String.empty_append]
      exact ⟨absolute_intercalate hnames, .inl (by rw [pieces_intercalate, flatMap_pieces hnames])⟩

end Path

/-! ## Scratch files -/

namespace Scratch

theorem pieces_inDirectory (directory : String) {name : String} (hne : name ≠ "") (h : '/' ∉ name.toList) :
    (Path.ofText (inDirectory directory name)).pieces = (Path.ofText directory).pieces ++ [name] := by
  have hname := Path.pieces_of_noSlash hne h
  rw [inDirectory]
  split
  next hends =>
    rcases Bool.or_eq_true_iff.1 hends with hempty | hslash
    · rw [String.isEmpty_iff.1 hempty, String.empty_append, hname, Path.pieces_empty, List.nil_append]
    · obtain ⟨above, rfl⟩ := String.endsWith_char_iff_exists_append.1 hslash
      have hsingle : String.singleton '/' = "/" := by decide
      have habove := Path.ofText_slash_pieces above ""
      rw [String.append_empty, Path.pieces_empty, List.append_nil] at habove
      rw [hsingle, Path.ofText_slash_pieces, habove, hname]
  · rw [Path.ofText_slash_pieces, hname]

theorem absolute_inDirectory (directory : String) {name : String} (hne : name ≠ "") (h : '/' ∉ name.toList) :
    (Path.ofText (inDirectory directory name)).absolute = (Path.ofText directory).absolute := by
  by_cases hempty : directory = ""
  · have hname := @Path.absolute_intercalate [name] (by simp [hne, h])
    rw [String.intercalate_singleton] at hname
    subst hempty
    exact hname
  · rw [inDirectory]
    split
    · exact Path.ofText_append_absolute hempty _
    · rw [String.append_assoc, Path.ofText_append_absolute hempty]

theorem startsWith_slash (path : String) : path.startsWith "/" = (Path.ofText path).absolute := by
  have hslash : "/".toList = ['/'] := rfl
  rw [Bool.eq_iff_iff, String.startsWith_string_iff, hslash]
  cases h : path.toList <;> simp [Path.ofText, h, eq_comm]

theorem absolute_absolute (current : Location) (path : String) :
    (Path.ofText (absolute current path)).absolute = true := by
  rw [absolute]
  split
  next hstart => rw [← startsWith_slash, hstart]
  · rw [Path.ofText_append_absolute (by decide)]
    decide

/-- From the root, the path leads through the current directory unless it begins at the root itself. -/
theorem pieces_absolute {current : Location} (hcurrent : ∀ name ∈ current, name ≠ "" ∧ '/' ∉ name.toList)
    (path : String) : (Path.ofText (absolute current path)).pieces =
      (if (Path.ofText path).absolute then [] else current) ++ (Path.ofText path).pieces := by
  rw [absolute, startsWith_slash]
  cases (Path.ofText path).absolute with
  | true => rw [if_pos rfl, if_pos rfl, List.nil_append]
  | false =>
    have hslash := Path.ofText_slash_pieces "" ("/".intercalate (current ++ [path]))
    rw [String.empty_append, Path.pieces_empty, List.nil_append] at hslash
    rw [if_neg (by decide), if_neg (by decide), hslash, Path.pieces_intercalate, List.flatMap_append,
      Path.flatMap_pieces hcurrent, List.flatMap_singleton]

/-- The name of the staging directory. -/
def stagingName (toolchain : Toolchain) : String := "." ++ ("bfcc-" ++ toolchain.tag)

theorem isName_stagingName {toolchain : Toolchain} (h : '/' ∉ toolchain.tag.toList) :
    IsName (stagingName toolchain) := by
  have e : (stagingName toolchain).toList = ".bfcc-".toList ++ toolchain.tag.toList := by simp [stagingName]
  constructor
  · intro hname
    rw [hname] at e
    simp at e
  · simp [e, h]
  · intro hname
    rw [hname] at e
    simp at e
  · intro hname
    rw [hname] at e
    simp at e

section Staging
variable {toolchain : Toolchain} (htag : '/' ∉ toolchain.tag.toList) {current : Location}
  (hcurrent : ∀ name ∈ current, name ≠ "" ∧ '/' ∉ name.toList) (target : Target)
include htag hcurrent

theorem pieces_staging (path : String) : (Path.ofText (forPath toolchain target path current).staging).pieces =
    (if (Path.ofText (Path.ofText path).parentText).absolute then [] else current) ++
      (Path.ofText (Path.ofText path).parentText).pieces ++ [stagingName toolchain] := by
  obtain ⟨hne, hslash, -, -⟩ := isName_stagingName htag
  have e : (forPath toolchain target path current).staging =
      absolute current (inDirectory (Path.ofText path).parentText (stagingName toolchain)) := by
    simp only [forPath, stagingName]
  rw [e, pieces_absolute hcurrent, absolute_inDirectory _ hne hslash, pieces_inDirectory _ hne hslash,
    List.append_assoc]

/-- The staging directory is next to where the path leads. -/
theorem pieces_staging_of_name {path : String} {above : List String} {last : String}
    (h : (Path.ofText path).pieces = above ++ [last]) (hlast : last ≠ ".") :
    ∃ above', (Path.ofText (forPath toolchain target path current).staging).pieces =
        (if (Path.ofText path).absolute then [] else current) ++ above' ++ [stagingName toolchain] ∧
      (above' = above ∨ above = [] ∧ above' = ["."]) := by
  obtain ⟨habsolute, hpieces⟩ := Path.parentText_pieces h hlast
  refine ⟨(Path.ofText (Path.ofText path).parentText).pieces, ?_, hpieces⟩
  rw [pieces_staging htag hcurrent, habsolute]

end Staging

theorem inDirectory_suffix (directory name : String) : ∃ stem, inDirectory directory name = stem ++ name := by
  rw [inDirectory]
  split
  · exact ⟨directory, rfl⟩
  · exact ⟨directory ++ "/", rfl⟩

theorem absolute_suffix (current : Location) (path : String) : ∃ stem, absolute current path = stem ++ path := by
  rw [absolute]
  split
  · exact ⟨"", String.empty_append.symm⟩
  · by_cases hnil : current = []
    · exact ⟨"/", by rw [hnil, List.nil_append, String.intercalate_singleton]⟩
    · refine ⟨"/" ++ ("/".intercalate current ++ "/"), ?_⟩
      rw [String.intercalate_append_of_ne_nil hnil (by simp), String.intercalate_singleton]
      simp only [String.append_assoc]

/-- The temporary file has the extension of its target. -/
theorem temporary_suffix (toolchain : Toolchain) (target : Target) (path : String) (current : Location) :
    ∃ stem, (forPath toolchain target path current).temporary = stem ++ ("." ++ target.fileExtension) := by
  obtain ⟨above, habove⟩ := inDirectory_suffix toolchain.temporaryDirectory
    ("bfcc-" ++ toolchain.tag ++ "." ++ target.fileExtension)
  obtain ⟨root, hroot⟩ := absolute_suffix current (above ++ ("bfcc-" ++ toolchain.tag ++ "." ++ target.fileExtension))
  refine ⟨root ++ (above ++ ("bfcc-" ++ toolchain.tag)), ?_⟩
  simp only [String.append_assoc] at habove hroot
  simp only [forPath, String.append_assoc, habove, hroot]

theorem pieces_executable (s : Scratch) :
    (Path.ofText s.executable).pieces = (Path.ofText s.staging).pieces ++ ["a.out"] := by
  have e : s.executable = s.staging ++ "/" ++ "a.out" := by simp [executable, String.append_assoc]
  have hname : (Path.ofText "a.out").pieces = ["a.out"] := Path.pieces_of_noSlash (by decide) (by decide)
  rw [e, Path.ofText_slash_pieces, hname]

end Scratch

end Brainfuck
