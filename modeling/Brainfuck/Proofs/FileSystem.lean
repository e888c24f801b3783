import Brainfuck.Proofs.Paths
import Mathlib.Data.List.Induction
import Mathlib.Tactic.SplitIfs
/-!
# What operations do to files

Each operation on files as a change of what stands at each location: `node?_insert`, `node?_eraseTree`,
`writeFile_cases`, `createDirectory_cases`, `rename_cases`. `KeepsDirectories.locate`: a path leads to the same place
as long as no directory is lost.
-/

namespace Brainfuck.FileSystem

/-! ## The table -/

section Table
variable {fs : FileSystem} {loc top source target : Location} {node : Node}

theorem lookup_filter (keep : Location → Bool) (nodes : List (Location × Node)) (loc : Location) :
    (nodes.filter fun entry => keep entry.1).lookup loc = if keep loc then nodes.lookup loc else none := by
  induction nodes with
  | nil => simp
  | cons entry rest ih =>
    obtain ⟨key, node⟩ := entry
    by_cases he : loc = key
    · subst he
      cases hk : keep loc <;> simp [hk, ih]
    · have hbeq : (loc == key) = false := by simpa using he
      cases hk : keep key <;> simp [List.lookup_cons, hk, hbeq, ih]

theorem node?_nil (fs : FileSystem) : fs.node? [] = some .directory := rfl

theorem ne_nil_of_none (h : fs.node? loc = none) : loc ≠ [] := by
  rintro rfl
  cases h

theorem node?_of_ne_nil (h : loc ≠ []) : fs.node? loc = fs.nodes.lookup loc := by
  cases loc with
  | nil => exact absurd rfl h
  | cons => rfl

theorem node?_erase (htop : top ≠ []) (loc : Location) :
    (fs.erase top).node? loc = if loc = top then none else fs.node? loc := by
  cases loc with
  | nil => rw [if_neg (Ne.symm htop), node?_nil, node?_nil]
  | cons name rest =>
    rw [node?_of_ne_nil (by simp), node?_of_ne_nil (by simp), erase,
      lookup_filter (fun key => decide (key ≠ top)) fs.nodes]
    by_cases he : name :: rest = top <;> simp [he]

theorem node?_insert (htop : top ≠ []) (node : Node) (loc : Location) :
    (fs.insert top node).node? loc = if loc = top then some node else fs.node? loc := by
  cases loc with
  | nil => rw [if_neg (Ne.symm htop), node?_nil, node?_nil]
  | cons name rest =>
    have herase := @node?_erase fs top htop (name :: rest)
    rw [node?_of_ne_nil (by simp), node?_of_ne_nil (by simp)] at herase
    rw [node?_of_ne_nil (by simp), node?_of_ne_nil (by simp), insert, List.lookup_cons, herase]
    by_cases he : name :: rest = top
    · simp [he]
    · have hbeq : (name :: rest == top) = false := by simpa using he
      simp [he, hbeq]

theorem ne_of_not_within (h : ¬ top <+: loc) : loc ≠ top := by
  rintro rfl
  exact h List.prefix_rfl

theorem isWithin_iff : isWithin top loc = true ↔ top <+: loc := List.isPrefixOf_iff_prefix

theorem node?_eraseTree (htop : top ≠ []) (loc : Location) :
    (fs.eraseTree top).node? loc = if top <+: loc then none else fs.node? loc := by
  cases loc with
  | nil => rw [if_neg (by simpa using htop), node?_nil, node?_nil]
  | cons name rest =>
    rw [node?_of_ne_nil (by simp), node?_of_ne_nil (by simp), eraseTree,
      lookup_filter (fun key => !isWithin top key) fs.nodes]
    by_cases hw : top <+: name :: rest
    · simp [hw, isWithin_iff.2 hw]
    · simp [hw, mt isWithin_iff.1 hw]

theorem lookup_map_key {f : Location → Location} {nodes : List (Location × Node)} {loc key : Location}
    (h : ∀ entry ∈ nodes, f entry.1 = loc ↔ entry.1 = key) :
    (nodes.map fun entry => (f entry.1, entry.2)).lookup loc = nodes.lookup key := by
  induction nodes with
  | nil => rfl
  | cons entry rest ih =>
    have hentry : (loc == f entry.1) = (key == entry.1) := by
      rw [Bool.eq_iff_iff, beq_iff_eq, beq_iff_eq]
      exact eq_comm.trans ((h entry List.mem_cons_self).trans eq_comm)
    rw [List.map_cons, List.lookup_cons, List.lookup_cons, hentry, ih fun e he => h e (List.mem_cons_of_mem _ he)]

/-- Where a location is when the source has been moved to the target. -/
def moved (source target loc : Location) : Location :=
  if source <+: loc then target ++ loc.drop source.length else loc

theorem moveTree_nodes (fs : FileSystem) (source target : Location) :
    (fs.moveTree source target).nodes = fs.nodes.map fun entry => (moved source target entry.1, entry.2) := by
  refine List.map_congr_left fun entry _ => ?_
  by_cases hs : source <+: entry.1
  · simp [moved, hs, isWithin_iff.2 hs]
  · simp [moved, hs, mt isWithin_iff.1 hs]

/-- What was at and below the source stands at and below the target, where nothing was. -/
theorem node?_moveTree (hsource : source ≠ []) (htarget : target ≠ [])
    (hempty : ∀ entry ∈ fs.nodes, ¬ target <+: entry.1) (loc : Location) :
    (fs.moveTree source target).node? loc =
      if target <+: loc then fs.node? (source ++ loc.drop target.length)
      else if source <+: loc then none else fs.node? loc := by
  by_cases hnil : loc = []
  · rw [hnil, if_neg (by simpa using htarget), if_neg (by simpa using hsource), node?_nil, node?_nil]
  rw [node?_of_ne_nil hnil, moveTree_nodes]
  by_cases ht : target <+: loc
  · obtain ⟨rest, rfl⟩ := ht
    rw [if_pos (List.prefix_append target rest), List.drop_left, node?_of_ne_nil (by simp [hsource])]
    refine lookup_map_key fun entry hentry => ?_
    rw [moved]
    split
    next hs =>
      obtain ⟨q, hq⟩ := hs
      rw [← hq, List.drop_left, List.append_cancel_left_eq, List.append_cancel_left_eq]
    next hs =>
      constructor
      · exact fun he => absurd ⟨rest, he.symm⟩ (hempty entry hentry)
      · exact fun he => absurd ⟨rest, he.symm⟩ hs
  · rw [if_neg ht]
    split
    next hs =>
      rw [List.lookup_eq_none_iff, List.forall_mem_map]
      intro entry _
      rw [moved, bne_iff_ne]
      split
      · exact fun he => ht ⟨_, he.symm⟩
      next hentry => exact fun he => hentry (he ▸ hs)
    next hs =>
      rw [node?_of_ne_nil hnil]
      refine lookup_map_key fun entry _ => ?_
      rw [moved]
      split
      next hentry =>
        constructor
        · exact fun he => absurd ⟨_, he⟩ ht
        · exact fun he => absurd (he ▸ hentry) hs
      · rfl

theorem eq_of_not_hasEntries (h : fs.hasEntries top = false) {entry : Location × Node} (hentry : entry ∈ fs.nodes)
    (hwithin : top <+: entry.1) : entry.1 = top := by
  have hnone := List.any_eq_false.1 h entry hentry
  simpa [isWithin_iff.2 hwithin] using hnone

theorem isSome_node?_of_mem {entry : Location × Node} (h : entry ∈ fs.nodes) : (fs.node? entry.1).isSome := by
  by_cases hnil : entry.1 = []
  · rw [hnil]
    rfl
  · rw [node?_of_ne_nil hnil, List.lookup_isSome_iff]
    exact ⟨entry, h, by simp⟩

end Table

/-! ## Trees -/

section Trees
variable {fs : FileSystem} {loc top rest : Location} {name : String} {node : Node}

/-- Whatever stands above something is a directory. -/
theorem WellFormed.directory_above (h : fs.WellFormed) (hrest : rest ≠ []) (hsome : (fs.node? (top ++ rest)).isSome) :
    fs.node? top = some .directory := by
  induction rest using List.reverseRecOn with
  | nil => exact absurd rfl hrest
  | append_singleton above name ih =>
    rw [← List.append_assoc] at hsome
    have hparent := h.parent hsome
    by_cases habove : above = []
    · rwa [habove, List.append_nil] at hparent
    · exact ih habove (by rw [hparent]; rfl)

/-- Nothing stands below what is not a directory. -/
theorem WellFormed.nothing_below (h : fs.WellFormed) (htop : fs.node? top ≠ some .directory) (hle : top <+: loc)
    (hne : loc ≠ top) : fs.node? loc = none := by
  obtain ⟨rest, rfl⟩ := hle
  rw [← Option.not_isSome_iff_eq_none]
  exact fun hsome => htop (h.directory_above (by simpa using hne) hsome)

theorem WellFormed.none_of_le (h : fs.WellFormed) (htop : fs.node? top = none) (hle : top <+: loc) :
    fs.node? loc = none := by
  by_cases hne : loc = top
  · rw [hne, htop]
  · exact h.nothing_below (by simp [htop]) hle hne

theorem WellFormed.not_within (h : fs.WellFormed) (htop : fs.node? top = none) (hnode : fs.node? loc = some node) :
    ¬ top <+: loc := by
  intro hle
  rw [h.none_of_le htop hle] at hnode
  cases hnode

theorem WellFormed.isName (h : fs.WellFormed) (hsome : (fs.node? loc).isSome) (hname : name ∈ loc) : IsName name := by
  induction loc using List.reverseRecOn with
  | nil => cases hname
  | append_singleton above last ih =>
    rcases List.mem_append.1 hname with habove | hlast
    · exact ih (by rw [h.parent hsome]; rfl) habove
    · rw [List.mem_singleton.1 hlast]
      exact h.name hsome

theorem wellFormed_of_nodes
    (h : ∀ entry ∈ fs.nodes, ∃ above name, entry.1 = above ++ [name] ∧ IsName name ∧ fs.node? above = some .directory)
    (hcurrent : fs.node? fs.current = some .directory) : fs.WellFormed := by
  have hparent {loc : Location} {name : String} (hsome : (fs.node? (loc ++ [name])).isSome) :
      IsName name ∧ fs.node? loc = some .directory := by
    rw [node?_of_ne_nil (by simp), List.lookup_isSome_iff] at hsome
    obtain ⟨entry, hentry, he⟩ := hsome
    obtain ⟨above, last, hlast, hname, habove⟩ := h entry hentry
    obtain ⟨rfl, hsingle⟩ := List.append_inj' ((beq_iff_eq.1 he).trans hlast) rfl
    rw [List.singleton_inj.1 hsingle]
    exact ⟨hname, habove⟩
  exact ⟨fun hsome => (hparent hsome).2, fun hsome => (hparent hsome).1, hcurrent⟩

theorem WellFormed.insert (h : fs.WellFormed) (htop : fs.node? top = some .directory) (hname : IsName name)
    (hold : node = .directory ∨ fs.node? (top ++ [name]) ≠ some .directory) :
    (fs.insert (top ++ [name]) node).WellFormed := by
  have hne : top ++ [name] ≠ [] := by simp
  have hnode (loc : Location) : (fs.insert (top ++ [name]) node).node? loc =
      if loc = top ++ [name] then some node else fs.node? loc := node?_insert hne node loc
  -- Where a directory stood, one still stands.
  have hdirectory {loc : Location} (hloc : fs.node? loc = some .directory) :
      (fs.insert (top ++ [name]) node).node? loc = some .directory := by
    rw [hnode]
    split
    next he =>
      subst he
      rcases hold with rfl | hold
      · rfl
      · exact absurd hloc hold
    · exact hloc
  constructor
  · intro loc last hsome
    rw [hnode] at hsome
    split at hsome
    next he =>
      obtain ⟨rfl, -⟩ := List.append_inj' he rfl
      exact hdirectory htop
    · exact hdirectory (h.parent hsome)
  · intro loc last hsome
    rw [hnode] at hsome
    split at hsome
    next he =>
      obtain ⟨-, hlast⟩ := List.append_inj' he rfl
      rwa [List.singleton_inj.1 hlast]
    · exact h.name hsome
  · exact hdirectory h.current

/-- Only what takes the place of a directory takes one away. -/
theorem keepsDirectories_insert (hne : loc ≠ []) (hkind : fs.node? loc ≠ some .directory) (node : Node) :
    KeepsDirectories fs (fs.insert loc node) := by
  refine ⟨rfl, fun {above} habove => ?_⟩
  rw [node?_insert hne, if_neg]
  · exact habove
  · rintro rfl
    exact hkind habove

end Trees

theorem ChangesBelow.refl (top : Location) (fs : FileSystem) : ChangesBelow top fs fs := ⟨rfl, fun _ => rfl, id⟩

/-! ## Paths -/

section Paths
variable {fs fs' : FileSystem} {loc loc' : Location} {path piece : String} {node : Option Node}

/-- The last name of the location is short enough for a file system. -/
def NameFits (loc : Location) : Prop := ∀ name, loc.getLast? = some name → name.utf8ByteSize ≤ maxNameSize

/-- One piece further on from a directory. -/
def further (loc : Location) (piece : String) : Location :=
  if piece = "." then loc else if piece = ".." then loc.dropLast else loc ++ [piece]

theorem further_of_name (hdot : piece ≠ ".") (hdots : piece ≠ "..") : further loc piece = loc ++ [piece] := by
  rw [further, if_neg hdot, if_neg hdots]

/-- Where a path begins. -/
def start (fs : FileSystem) (path : String) : Location := if (Path.ofText path).absolute then [] else fs.current

theorem lookup_ok_iff : fs.lookup loc = .ok node ↔ NameFits loc ∧ fs.node? loc = node := by
  unfold lookup NameFits
  split
  next hlast => simp [hlast]
  next name hlast =>
    split
    next hlong => simp [hlast, Nat.not_le.2 hlong]
    next hshort => simp [hlast, Nat.not_lt.1 hshort]

theorem bind_ok_iff {α β : Type} {x : Except SystemError α} {f : α → Except SystemError β} {b : β} :
    (x >>= f) = .ok b ↔ ∃ a, x = .ok a ∧ f a = .ok b := by
  cases x with
  | error e => simp [bind, Except.bind]
  | ok a => simp [bind, Except.bind]

theorem enter_ok_iff : fs.enter loc piece = .ok loc' ↔
    fs.node? loc = some .directory ∧ NameFits loc ∧ further loc piece = loc' := by
  simp only [enter, bind_ok_iff, lookup_ok_iff]
  constructor
  · rintro ⟨node, ⟨hfits, rfl⟩, h⟩
    split at h
    · cases h
    next hnode =>
      refine ⟨hnode, hfits, ?_⟩
      unfold further
      split_ifs at h ⊢ <;> exact Except.ok.inj h
    · cases h
  · rintro ⟨hnode, hfits, rfl⟩
    refine ⟨_, ⟨hfits, hnode⟩, ?_⟩
    dsimp only [further]
    split_ifs <;> rfl

theorem locate_ok_iff : fs.locate path = .ok loc ↔ path ≠ "" ∧ path.utf8ByteSize ≤ maxPathSize ∧
    (Path.ofText path).pieces.foldlM fs.enter (fs.start path) = .ok loc := by
  unfold locate
  by_cases hempty : path = ""
  · simp [hempty]
  · have hne : path.isEmpty = false := by simpa using hempty
    by_cases hlong : maxPathSize < path.utf8ByteSize
    · simp [hne, hlong, Nat.not_le.2 hlong]
    · simp [hne, hempty, hlong, Nat.not_lt.1 hlong, start]

theorem KeepsDirectories.enter (h : KeepsDirectories fs fs') (he : fs.enter loc piece = .ok loc') :
    fs'.enter loc piece = .ok loc' := by
  rw [enter_ok_iff] at he ⊢
  exact ⟨h.directory he.1, he.2⟩

theorem KeepsDirectories.walk (h : KeepsDirectories fs fs') {pieces : List String}
    (hw : pieces.foldlM fs.enter loc = .ok loc') : pieces.foldlM fs'.enter loc = .ok loc' := by
  induction pieces generalizing loc with
  | nil => exact hw
  | cons piece rest ih =>
    rw [List.foldlM_cons, bind_ok_iff] at hw ⊢
    obtain ⟨next, he, hw⟩ := hw
    exact ⟨next, h.enter he, ih hw⟩

theorem KeepsDirectories.locate (h : KeepsDirectories fs fs') (hl : fs.locate path = .ok loc) :
    fs'.locate path = .ok loc := by
  rw [locate_ok_iff] at hl ⊢
  obtain ⟨hne, hsize, hw⟩ := hl
  refine ⟨hne, hsize, ?_⟩
  rw [start, h.current]
  exact h.walk hw

/-- A walk along names only goes down. -/
theorem walk_names {names : List String} (h : ∀ name ∈ names, IsName name)
    (hw : names.foldlM fs.enter loc = .ok loc') : loc' = loc ++ names := by
  induction names generalizing loc with
  | nil =>
    cases hw
    rw [List.append_nil]
  | cons name rest ih =>
    rw [List.foldlM_cons, bind_ok_iff] at hw
    obtain ⟨next, he, hw⟩ := hw
    obtain ⟨-, -, hdot, hdots⟩ := h name List.mem_cons_self
    obtain ⟨-, -, rfl⟩ := enter_ok_iff.1 he
    rw [ih (fun n hn => h n (List.mem_cons_of_mem _ hn)) hw, further_of_name hdot hdots, List.append_assoc,
      List.singleton_append]

theorem endsInName_iff : endsInName path = true ↔
    ∃ above last, (Path.ofText path).pieces = above ++ [last] ∧ last ≠ "." ∧ last ≠ ".." := by
  unfold endsInName
  cases hlast : (Path.ofText path).pieces.getLast? with
  | none => simp [List.getLast?_eq_none_iff.1 hlast]
  | some last =>
    obtain ⟨above, hpieces⟩ := List.getLast?_eq_some_iff.1 hlast
    simp [hpieces]

/-- A path with a last name leads to that name in a directory. -/
theorem locate_name (h : fs.locate path = .ok loc) {above : List String} {last : String}
    (hpieces : (Path.ofText path).pieces = above ++ [last]) (hdot : last ≠ ".") (hdots : last ≠ "..") :
    ∃ parent, above.foldlM fs.enter (fs.start path) = .ok parent ∧ fs.node? parent = some .directory ∧
      NameFits parent ∧ loc = parent ++ [last] ∧ IsName last := by
  obtain ⟨-, -, hw⟩ := locate_ok_iff.1 h
  rw [hpieces, List.foldlM_append, bind_ok_iff] at hw
  obtain ⟨parent, hparent, hlast⟩ := hw
  rw [List.foldlM_cons, bind_ok_iff] at hlast
  obtain ⟨_, hlast, he⟩ := hlast
  cases he
  obtain ⟨hdirectory, hfits, rfl⟩ := enter_ok_iff.1 hlast
  obtain ⟨hne, hslash⟩ := Path.mem_pieces (hpieces ▸ List.mem_append_right above (List.mem_singleton_self last))
  exact ⟨parent, hparent, hdirectory, hfits, further_of_name hdot hdots, hne, hslash, hdot, hdots⟩

end Paths

/-! ## Operations -/

section Operations
variable {fs fs' : FileSystem} {loc : Location} {path source target : String} {content : ByteArray}

theorem find_ok {node : Node} (h : fs.find path = .ok (loc, node)) :
    fs.locate path = .ok loc ∧ NameFits loc ∧ fs.node? loc = some node := by
  obtain ⟨loc', hlocate, h⟩ := bind_ok_iff.1 h
  obtain ⟨found, hfound, h⟩ := bind_ok_iff.1 h
  obtain ⟨hfits, hnode⟩ := lookup_ok_iff.1 hfound
  split at h
  · cases h
  · cases h
    exact ⟨hlocate, hfits, hnode⟩
  · split_ifs at h
    cases h
    exact ⟨hlocate, hfits, hnode⟩

/-- What can be read is not a directory. -/
theorem readFile_ok (h : fs.readFile path = .ok content) :
    ∃ loc node, fs.locate path = .ok loc ∧ NameFits loc ∧ fs.node? loc = some node ∧ node ≠ .directory := by
  obtain ⟨⟨loc, node⟩, hfind, h⟩ := bind_ok_iff.1 h
  obtain ⟨hlocate, hfits, hnode⟩ := find_ok hfind
  refine ⟨loc, node, hlocate, hfits, hnode, ?_⟩
  rintro rfl
  cases h

theorem readFile_of_file {executable : Bool} (hlocate : fs.locate path = .ok loc) (hfits : NameFits loc)
    (hslash : (Path.ofText path).trailingSlash = false) (hnode : fs.node? loc = some (.file content executable)) :
    fs.readFile path = .ok content := by
  have hfind : fs.find path = .ok (loc, .file content executable) := by
    refine bind_ok_iff.2 ⟨loc, hlocate, bind_ok_iff.2 ⟨_, lookup_ok_iff.2 ⟨hfits, hnode⟩, ?_⟩⟩
    dsimp only
    rw [hslash, if_neg (by decide)]
  exact bind_ok_iff.2 ⟨_, hfind, rfl⟩

theorem locateForWriting_ok_iff : fs.locateForWriting path = .ok loc ↔
    fs.locate path = .ok loc ∧ endsInName path = true ∧ (Path.ofText path).trailingSlash = false ∧ NameFits loc ∧
      fs.node? loc ≠ some .directory := by
  simp only [locateForWriting, bind_ok_iff]
  constructor
  · rintro ⟨loc', hl, h⟩
    split_ifs at h with hname
    obtain ⟨node, hnode, h⟩ := bind_ok_iff.1 h
    obtain ⟨hfits, rfl⟩ := lookup_ok_iff.1 hnode
    split at h
    · cases h
    next hkind =>
      cases h
      simp only [Bool.or_eq_true, Bool.not_eq_true', not_or, Bool.not_eq_true, Bool.not_eq_false] at hname
      exact ⟨hl, hname.1, hname.2, hfits, hkind⟩
  · rintro ⟨hl, hname, hslash, hfits, hkind⟩
    refine ⟨loc, hl, ?_⟩
    rw [hname, hslash]
    refine bind_ok_iff.2 ⟨_, lookup_ok_iff.2 ⟨hfits, rfl⟩, ?_⟩
    split
    next h => exact absurd h hkind
    · rfl

theorem parent_of_locateForWriting (h : fs.locateForWriting path = .ok loc) :
    ∃ parent last, loc = parent ++ [last] ∧ fs.node? parent = some .directory ∧ IsName last := by
  obtain ⟨hlocate, hname, -⟩ := locateForWriting_ok_iff.1 h
  obtain ⟨above, last, hpieces, hdot, hdots⟩ := endsInName_iff.1 hname
  obtain ⟨parent, -, hparent, -, hloc, hlast⟩ := locate_name hlocate hpieces hdot hdots
  exact ⟨parent, last, hloc, hparent, hlast⟩

/-- What can be written to does not stand below what is not there. -/
theorem eq_of_locateForWriting (hfs : fs.WellFormed) (h : fs.locateForWriting path = .ok loc) {top : Location}
    (htop : fs.node? top = none) (hle : top <+: loc) : loc = top := by
  obtain ⟨parent, last, rfl, hparent, -⟩ := parent_of_locateForWriting h
  rcases List.prefix_concat_iff.1 hle with he | hle
  · exact he.symm
  · exact absurd hle (hfs.not_within htop hparent)

theorem writeFile_ok (h : fs.writeFile path content = .ok fs') :
    ∃ loc node, fs.locateForWriting path = .ok loc ∧ fs' = fs.insert loc node := by
  obtain ⟨loc, hl, h⟩ := bind_ok_iff.1 h
  split at h
  · cases h
    exact ⟨loc, _, hl, rfl⟩
  · obtain ⟨device, -, h⟩ := bind_ok_iff.1 h
    cases h
    exact ⟨loc, _, hl, rfl⟩
  · cases h
    exact ⟨loc, _, hl, rfl⟩

/-- A file written where nothing was is the only new node. -/
theorem writeFile_new (h : fs.writeFile path content = .ok fs')
    (hnew : ∀ {loc}, fs.locate path = .ok loc → fs.node? loc = none) :
    ∃ loc, fs.locateForWriting path = .ok loc ∧ fs.node? loc = none ∧ fs' = fs.insert loc (.file content false) := by
  obtain ⟨loc, hl, h⟩ := bind_ok_iff.1 h
  have hnone := hnew (locateForWriting_ok_iff.1 hl).1
  rw [hnone] at h
  cases h
  exact ⟨loc, hl, hnone, rfl⟩

theorem createDirectory_ok_iff : fs.createDirectory path = .ok fs' ↔
    ∃ loc, fs.locate path = .ok loc ∧ NameFits loc ∧ fs.node? loc = none ∧ fs.insert loc .directory = fs' := by
  simp only [createDirectory, bind_ok_iff, lookup_ok_iff]
  constructor
  · rintro ⟨loc, hl, node, ⟨hfits, rfl⟩, h⟩
    split at h
    · cases h
    next hnone =>
      cases h
      exact ⟨loc, hl, hfits, hnone, rfl⟩
  · rintro ⟨loc, hl, hfits, hnone, rfl⟩
    exact ⟨loc, hl, none, ⟨hfits, hnone⟩, rfl⟩

/-- What was at and below the origin is at and below the goal, where nothing else was but an empty directory or, for a
file, a file. -/
structure Renamed (fs fs' : FileSystem) (origin goal : Location) : Prop where
  current : fs'.current = fs.current
  exists_origin : (fs.node? origin).isSome
  directory : fs.node? goal = some .directory → fs.node? origin = some .directory
  empty : goal ≠ origin → ∀ {loc}, goal <+: loc → loc ≠ goal → fs.node? loc = none
  node : ∀ loc, fs'.node? loc =
    if goal <+: loc then fs.node? (origin ++ loc.drop goal.length)
    else if origin <+: loc then none else fs.node? loc

section Renaming
variable {origin goal : Location} (hfs : fs.WellFormed) (hgoal : goal ≠ [])
include hfs hgoal

theorem renamed_file {node : Node} (horigin : fs.node? origin = some node) (hnode : node ≠ .directory)
    (hkind : fs.node? goal ≠ some .directory) : Renamed fs ((fs.erase origin).insert goal node) origin goal := by
  have hne : origin ≠ [] := by
    rintro rfl
    rw [node?_nil] at horigin
    exact hnode (Option.some.inj horigin).symm
  have hfile : fs.node? origin ≠ some .directory := by simp [horigin, hnode]
  refine ⟨rfl, by rw [horigin]; rfl, fun h => absurd h hkind, fun _ _ => hfs.nothing_below hkind, fun loc => ?_⟩
  rw [node?_insert hgoal, node?_erase hne]
  by_cases hg : goal <+: loc
  · obtain ⟨rest, rfl⟩ := hg
    rw [if_pos (List.prefix_append goal rest), List.drop_left]
    by_cases hrest : rest = []
    · rw [hrest, List.append_nil, if_pos rfl, List.append_nil, horigin]
    · have hbelow := hfs.nothing_below hfile (List.prefix_append origin rest) (by simpa using hrest)
      have hbelow' := hfs.nothing_below hkind (List.prefix_append goal rest) (by simpa using hrest)
      rw [if_neg (by simpa using hrest), hbelow, hbelow', ite_self]
  · rw [if_neg (ne_of_not_within hg), if_neg hg]
    by_cases ho : origin <+: loc
    · rw [if_pos ho]
      split
      · rfl
      next he => exact hfs.nothing_below hfile ho he
    · rw [if_neg ho, if_neg (ne_of_not_within ho)]

theorem renamed_directory (horigin : fs.node? origin = some .directory) (hwithin : ¬ origin <+: goal)
    (hnone : fs.node? goal = none) : Renamed fs (fs.moveTree origin goal) origin goal := by
  have hne : origin ≠ [] := by
    rintro rfl
    exact hwithin List.nil_prefix
  have hempty {loc : Location} (hle : goal <+: loc) : fs.node? loc = none := hfs.none_of_le hnone hle
  refine ⟨rfl, by rw [horigin]; rfl, fun _ => horigin, fun _ _ hle _ => hempty hle, fun loc => ?_⟩
  refine node?_moveTree hne hgoal (fun entry hentry hle => ?_) loc
  have hsome := isSome_node?_of_mem hentry
  rw [hempty hle] at hsome
  cases hsome

omit hfs in
theorem renamed_over_directory (horigin : fs.node? origin = some .directory) (hwithin : ¬ origin <+: goal)
    (hentries : fs.hasEntries goal = false) : Renamed fs ((fs.erase goal).moveTree origin goal) origin goal := by
  have hne : origin ≠ [] := by
    rintro rfl
    exact hwithin List.nil_prefix
  refine ⟨rfl, by rw [horigin]; rfl, fun _ => horigin, fun _ loc hle hloc => ?_, fun loc => ?_⟩
  · have hnil : loc ≠ [] := by
      rintro rfl
      exact hgoal (List.prefix_nil.1 hle)
    rw [node?_of_ne_nil hnil, List.lookup_eq_none_iff]
    intro entry hentry
    rw [bne_iff_ne]
    rintro rfl
    exact hloc (eq_of_not_hasEntries hentries hentry hle)
  · rw [node?_moveTree hne hgoal fun entry hentry hle => ?_]
    · rw [node?_erase hgoal, node?_erase hgoal]
      have horiginal : origin ++ loc.drop goal.length ≠ goal := fun he => hwithin ⟨_, he⟩
      rw [if_neg horiginal]
      by_cases hg : goal <+: loc
      · rw [if_pos hg, if_pos hg]
      · rw [if_neg hg, if_neg hg, if_neg (ne_of_not_within hg)]
    · obtain ⟨hentry, hkept⟩ := List.mem_filter.1 hentry
      exact of_decide_eq_true hkept (eq_of_not_hasEntries hentries hentry hle)

end Renaming

theorem renamed_self (h : (fs.node? loc).isSome) : Renamed fs fs loc loc := by
  refine ⟨rfl, h, id, fun hne => absurd rfl hne, fun loc' => ?_⟩
  by_cases hle : loc <+: loc'
  · rw [if_pos hle, List.prefix_iff_eq_append.1 hle]
  · rw [if_neg hle, if_neg hle]

theorem rename_cases (hfs : fs.WellFormed) (h : fs.rename source target = .ok fs') :
    ∃ origin goal, fs.locate source = .ok origin ∧ fs.locate target = .ok goal ∧ endsInName target = true ∧
      Renamed fs fs' origin goal := by
  obtain ⟨origin, horigin, h⟩ := bind_ok_iff.1 h
  obtain ⟨goal, hgoal, h⟩ := bind_ok_iff.1 h
  cases hname : endsInName target with
  | false => simp [hname] at h
  | true =>
    obtain ⟨above, last, hpieces, hdot, hdots⟩ := endsInName_iff.1 hname
    obtain ⟨parent, -, -, -, hparent, -⟩ := locate_name hgoal hpieces hdot hdots
    have hne : goal ≠ [] := by simp [hparent]
    refine ⟨origin, goal, horigin, hgoal, rfl, ?_⟩
    simp only [hname, Bool.not_true, Bool.false_eq_true, if_false, bind_ok_iff, lookup_ok_iff] at h
    obtain ⟨node, ⟨-, hnode⟩, h⟩ := h
    split at h
    · cases h
    · obtain ⟨existing, hexisting, h⟩ := bind_ok_iff.1 h
      obtain ⟨-, hexisting⟩ := lookup_ok_iff.1 hexisting
      by_cases hself : origin = goal
      · rw [if_pos hself] at h
        cases h
        exact hself ▸ renamed_self (by rw [hnode]; rfl)
      rw [if_neg hself] at h
      by_cases hwithin : origin <+: goal
      · rw [if_pos (isWithin_iff.2 hwithin)] at h
        cases h
      rw [if_neg (mt isWithin_iff.1 hwithin)] at h
      split at h
      · cases h
        exact renamed_directory hfs hne hnode hwithin hexisting
      · split_ifs at h with hentries
        cases h
        exact renamed_over_directory hne hnode hwithin (Bool.eq_false_iff.2 hentries)
      · cases h
    next node hkind =>
      obtain ⟨existing, hexisting, h⟩ := bind_ok_iff.1 h
      obtain ⟨-, hexisting⟩ := lookup_ok_iff.1 hexisting
      split_ifs at h with hslash
      split at h
      · cases h
      next hold =>
        cases h
        exact renamed_file hfs hne hnode hkind (hexisting ▸ hold)

/-- A file can take the place of whatever else could be written to. -/
theorem exists_rename {origin goal : Location} {node : Node} (horigin : fs.locate source = .ok origin)
    (hfits : NameFits origin) (hnode : fs.node? origin = some node) (hkind : node ≠ .directory)
    (hgoal : fs.locateForWriting target = .ok goal) : ∃ fs', fs.rename source target = .ok fs' := by
  obtain ⟨hlocate, hname, hslash, hgoalFits, hold⟩ := locateForWriting_ok_iff.1 hgoal
  refine ⟨(fs.erase origin).insert goal node, bind_ok_iff.2 ⟨origin, horigin, bind_ok_iff.2 ⟨goal, hlocate, ?_⟩⟩⟩
  rw [hname]
  refine bind_ok_iff.2 ⟨some node, lookup_ok_iff.2 ⟨hfits, hnode⟩, ?_⟩
  split
  next he => cases he
  next he =>
    cases he
    exact absurd rfl hkind
  next he =>
    cases he
    refine bind_ok_iff.2 ⟨_, lookup_ok_iff.2 ⟨hgoalFits, rfl⟩, ?_⟩
    rw [hslash, if_neg (by decide)]
    split
    next he => exact absurd he hold
    · rfl

end Operations

end Brainfuck.FileSystem
