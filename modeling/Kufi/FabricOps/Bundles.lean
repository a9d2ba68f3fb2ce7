import Kufi.Shared.FileTree

set_option autoImplicit false

/-!
# MSP bundles

`PackageMSPDir` packs a directory into a compressed archive in base64, and
`UnpackMSPBundle` extracts such an archive below a target directory. What
base64, gzip and tar do with bytes is a parameter.
-/

namespace Kufi.FabricOps

open Shared

abbrev Bytes := List UInt8

/-- A header of a tar archive with the data after it. -/
structure TarEntry where
  name : String
  typeflag : Char
  data : Bytes
  deriving DecidableEq

def typeReg : Char := '0'
def typeDir : Char := '5'

/-- What a reader finds in an archive, and the error that ends it, unless it is its end. -/
structure Archive where
  entries : List TarEntry
  err : Option String
  deriving DecidableEq

structure Codec where
  encodeToString : Bytes → String
  decodeString : String → Except String Bytes
  -- the tar writer and the gzip writer under it
  tarGz : List TarEntry → Bytes
  gzipReader : Bytes → Except String Archive

/-- An entry that a tar archive can hold: it calls a name with a slash at its end a directory. -/
structure TarEntry.Portable (entry : TarEntry) : Prop where
  name : Char.ofNat 0 ∉ entry.name.toList
  kind : entry.typeflag = typeDir ∧ entry.data = [] ∧ entry.name.toList.getLast? = some '/' ∨
    entry.typeflag = typeReg ∧ entry.name.toList.getLast? ≠ some '/'

/-- The readers give back what the writers were given. -/
structure Codec.Lawful (codec : Codec) : Prop where
  decoded : ∀ data, codec.decodeString (codec.encodeToString data) = .ok data
  read : ∀ entries, (∀ entry ∈ entries, entry.Portable) →
    codec.gzipReader (codec.tarGz entries) = .ok ⟨entries, none⟩

/-! ## Unpacking -/

/-- The files with the paths that were created or truncated, and the error returned. -/
structure Unpacked where
  tree : FileTree Bytes
  written : List Path
  err : Option String

-- An error of `os.MkdirAll` is not looked at.
def makeDirectory (tree : FileTree Bytes) (path : Path) : FileTree Bytes :=
  match tree.mkdirAll path with
  | .ok made => made
  | .error _ => tree

def unpackEntry (targetDir : Path) (tree : FileTree Bytes) (hdr : TarEntry) : Unpacked :=
  let target := targetDir.join hdr.name
  if hdr.typeflag = typeDir then ⟨makeDirectory tree target, [], none⟩
  else
    let tree := makeDirectory tree target.directory
    match tree.create target hdr.data with
    | .error err => ⟨tree, [], some ("open /" ++ Path.render target ++ ": " ++ err)⟩
    | .ok tree => ⟨tree, [target], none⟩

def unpackEntries (targetDir : Path) (err : Option String) :
    FileTree Bytes → List TarEntry → Unpacked
  | tree, [] => ⟨tree, [], err⟩
  | tree, hdr :: rest =>
    let first := unpackEntry targetDir tree hdr
    match first.err with
    | some _ => first
    | none =>
      let later := unpackEntries targetDir err first.tree rest
      ⟨later.tree, first.written ++ later.written, later.err⟩

variable (codec : Codec)

def unpackMSPBundle (b64Data : String) (targetDir : Path) (tree : FileTree Bytes) : Unpacked :=
  match codec.decodeString b64Data with
  | .error err => ⟨tree, [], some ("base64 decode: " ++ err)⟩
  | .ok data =>
    match codec.gzipReader data with
    | .error err => ⟨tree, [], some ("gzip: " ++ err)⟩
    | .ok archive => unpackEntries targetDir archive.err tree archive.entries

/-! ## Packaging -/

/-- A name in a directory. -/
structure EntryName where
  text : String
  component : Path.Component text
  terminated : Char.ofNat 0 ∉ text.toList

/-- A directory or a regular file as it stands on the disk, its names in the order of a walk. -/
inductive SourceTree where
  | file (data : Bytes)
  | folder (children : List (EntryName × SourceTree))

abbrev SourceNode := List EntryName × FileNode Bytes

def SourceNode.path (node : SourceNode) : Path := node.1.map EntryName.text

mutual

def walk (path : List EntryName) : SourceTree → List SourceNode
  | .file data => [(path, .file data)]
  | .folder children => (path, .directory) :: walkAll path children

def walkAll (path : List EntryName) : List (EntryName × SourceTree) → List SourceNode
  | [] => []
  | (name, child) :: rest => walk (path ++ [name]) child ++ walkAll path rest

end

-- `filepath.Rel` of the directory itself is a dot.
def relative (path : Path) : String := if path = [] then "." else Path.render path

def fileInfoHeader (node : SourceNode) : TarEntry :=
  match node.2 with
  | .directory => ⟨relative node.path ++ "/", typeDir, []⟩
  | .file data => ⟨relative node.path, typeReg, data⟩

/-- The path of the directory below the one that it stands in. -/
def relBase (mspDir : List EntryName) : List EntryName := mspDir.drop mspDir.dropLast.length

def packageMSPDir (mspDir : List EntryName) (source : SourceTree) : String :=
  codec.encodeToString (codec.tarGz ((walk (relBase mspDir) source).map fileInfoHeader))

/-! ## What an entry changes -/

section

variable {targetDir path : Path} {tree : FileTree Bytes} {hdr : TarEntry}

theorem makeDirectory_blocked (blocked : tree.Blocked path) : makeDirectory tree path = tree := by
  obtain ⟨err, failed⟩ := FileTree.mkdirAll_eq_error blocked
  rw [makeDirectory, failed]

theorem makeDirectory_free (free : ¬ tree.Blocked path) (other : Path) :
    (makeDirectory tree path).node other =
      if other <+: path then some .directory else tree.node other := by
  obtain ⟨made, accepted, nodes⟩ := FileTree.mkdirAll_eq_ok free
  rw [makeDirectory, accepted]
  exact nodes other

/-- A directory that is made does not replace anything. -/
theorem makeDirectory_node (tree : FileTree Bytes) (path other : Path) :
    (makeDirectory tree path).node other = tree.node other ∨
      tree.node other = none ∧ (makeDirectory tree path).node other = some .directory := by
  by_cases blocked : tree.Blocked path
  · rw [makeDirectory_blocked blocked]
    exact .inl rfl
  · rw [makeDirectory_free blocked]
    split
    next above =>
      cases stands : tree.node other with
      | none => exact .inr ⟨rfl, rfl⟩
      | some entry =>
        cases entry with
        | directory => exact .inl rfl
        | file data =>
          exact absurd (FileTree.blocked_iff.mpr ⟨other, data, above, stands⟩) blocked
    next => exact .inl rfl

theorem makeDirectory_stands (stands : tree.node path = some .directory) (other : Path) :
    (makeDirectory tree path).node other = tree.node other := by
  rw [makeDirectory_free (FileTree.not_blocked_of_directory stands)]
  split
  next above => rw [FileTree.directory_of_above stands above]
  next => rfl

/-- Above the target there are directories, so what is made below it changes nothing elsewhere. -/
theorem makeDirectory_outside (stands : tree.node targetDir = some .directory) {other : Path}
    (near : targetDir <+: path ∨ path <+: targetDir) (outside : ¬ targetDir <+: other) :
    (makeDirectory tree path).node other = tree.node other := by
  by_cases blocked : tree.Blocked path
  · rw [makeDirectory_blocked blocked]
  · rw [makeDirectory_free blocked]
    split
    next above =>
      have higher : other <+: targetDir := by
        rcases near with below | above'
        · exact (List.prefix_or_prefix_of_prefix above below).resolve_right outside
        · exact above.trans above'
      rw [FileTree.directory_of_above stands higher]
    next => rfl

/-- What one entry does to a path: nothing, or a new directory, or a file that is written. -/
theorem unpackEntry_node (targetDir : Path) (tree : FileTree Bytes) (hdr : TarEntry)
    (other : Path) :
    (unpackEntry targetDir tree hdr).tree.node other = tree.node other ∨
      tree.node other = none ∧
        (unpackEntry targetDir tree hdr).tree.node other = some .directory ∨
      other ∈ (unpackEntry targetDir tree hdr).written ∧ tree.node other ≠ some .directory ∧
        ∃ data, (unpackEntry targetDir tree hdr).tree.node other = some (.file data) := by
  unfold unpackEntry
  dsimp only
  split
  next => exact (makeDirectory_node _ _ other).imp_right .inl
  next =>
    split
    next err failed => exact (makeDirectory_node _ _ other).imp_right .inl
    next tree' created =>
      obtain ⟨leaf, -, nodes⟩ := FileTree.create_created created
      rw [nodes]
      split
      next same =>
        subst same
        refine .inr (.inr ⟨List.mem_singleton_self _, fun stands => leaf ?_, _, rfl⟩)
        rcases makeDirectory_node tree (targetDir.join hdr.name).directory
          (targetDir.join hdr.name) with same | made
        · rw [same, stands]
        · exact made.2
      next => exact (makeDirectory_node _ _ other).imp_right .inl

/-- The entry finds its directory there already, or a file that is in the way. -/
def Idle (targetDir : Path) (tree : FileTree Bytes) (hdr : TarEntry) : Prop :=
  tree.node (targetDir.join hdr.name) = some .directory ∨
    tree.Blocked (if hdr.typeflag = typeDir then targetDir.join hdr.name
      else (targetDir.join hdr.name).directory)

instance (targetDir : Path) (tree : FileTree Bytes) (hdr : TarEntry) :
    Decidable (Idle targetDir tree hdr) :=
  inferInstanceAs (Decidable (_ ∨ _))

/-- Only paths in the target directory are created or overwritten. -/
structure Contained (targetDir : Path) (before : FileTree Bytes) (after : Unpacked) : Prop where
  kept : ∀ path, ¬ targetDir <+: path → after.tree.node path = before.node path
  written : ∀ path ∈ after.written, targetDir <+: path

theorem directory_near (inside : targetDir <+: path) :
    targetDir <+: path.directory ∨ path.directory <+: targetDir := by
  refine List.prefix_or_prefix_of_prefix inside (List.dropLast_prefix path)

theorem unpackEntry_idle (idle : Idle targetDir tree hdr) :
    Contained targetDir tree (unpackEntry targetDir tree hdr) := by
  unfold Idle at idle
  unfold unpackEntry
  dsimp only
  split at idle
  next dir =>
    rw [if_pos dir]
    refine ⟨fun path _ => ?_, fun _ none => by cases none⟩
    rcases idle with stands | blocked
    · exact makeDirectory_stands stands path
    · rw [makeDirectory_blocked blocked]
  next dir =>
    rw [if_neg dir]
    have kept (path : Path) : (makeDirectory tree (targetDir.join hdr.name).directory).node path =
        tree.node path := by
      rcases idle with stands | blocked
      · exact makeDirectory_stands (tree.closed _ (by simp [stands])) path
      · rw [makeDirectory_blocked blocked]
    have failed : ∃ err, (makeDirectory tree (targetDir.join hdr.name).directory).create
        (targetDir.join hdr.name) hdr.data = .error err := by
      rcases idle with stands | blocked
      · exact ⟨_, FileTree.create_directory (by rw [kept, stands])⟩
      · refine FileTree.create_missing fun stands => ?_
        rw [kept] at stands
        exact FileTree.not_blocked_of_directory stands blocked
    obtain ⟨err, failed⟩ := failed
    rw [failed]
    exact ⟨fun path _ => kept path, fun _ none => by cases none⟩

theorem unpackEntry_inside (stands : tree.node targetDir = some .directory)
    (inside : targetDir <+: targetDir.join hdr.name) :
    Contained targetDir tree (unpackEntry targetDir tree hdr) := by
  unfold unpackEntry
  dsimp only
  split
  next =>
    exact ⟨fun path outside => makeDirectory_outside stands (.inl inside) outside,
      fun _ none => by cases none⟩
  next =>
    have kept {path : Path} (outside : ¬ targetDir <+: path) :=
      makeDirectory_outside stands (directory_near inside) outside
    split
    next => exact ⟨fun path outside => kept outside, fun _ none => by cases none⟩
    next tree' created =>
      obtain ⟨-, -, nodes⟩ := FileTree.create_created created
      refine ⟨fun path outside => ?_, fun path written => ?_⟩
      · have apart : path ≠ targetDir.join hdr.name := by
          rintro rfl
          exact outside inside
        rw [nodes, if_neg apart, kept outside]
      · rw [List.mem_singleton.mp written]
        exact inside

theorem idle_of_contained (contained : Contained targetDir tree (unpackEntry targetDir tree hdr))
    (outside : ¬ targetDir <+: targetDir.join hdr.name) : Idle targetDir tree hdr := by
  unfold Idle
  by_contra busy
  obtain ⟨absent, free⟩ := not_or.mp busy
  obtain ⟨kept, written⟩ := contained
  unfold unpackEntry at kept written
  dsimp only at kept written
  split at free
  next dir =>
    rw [if_pos dir] at kept
    have made := kept _ outside
    rw [makeDirectory_free free, if_pos (List.prefix_refl _)] at made
    exact absent made.symm
  next dir =>
    rw [if_neg dir] at written
    have inside : targetDir.join hdr.name ≠ [] := by
      intro root
      rw [root, tree.root] at absent
      exact absent rfl
    have below : ¬ targetDir.join hdr.name <+: (targetDir.join hdr.name).directory := by
      intro above
      have length := above.length_le
      have positive := List.length_pos_iff.mpr inside
      simp only [Path.directory, List.length_dropLast] at length
      omega
    obtain ⟨tree', created, -⟩ := FileTree.create_eq_ok hdr.data inside
      (by rw [makeDirectory_free free, if_neg below]; exact absent)
      (by rw [makeDirectory_free free, if_pos (List.prefix_refl _)])
    rw [created] at written
    exact outside (written _ (List.mem_singleton_self _))

/-- An entry stays in the target exactly if its name leads there or it has nothing to do. -/
theorem unpackEntry_contained_iff (stands : tree.node targetDir = some .directory) :
    Contained targetDir tree (unpackEntry targetDir tree hdr) ↔
      targetDir <+: targetDir.join hdr.name ∨ Idle targetDir tree hdr := by
  constructor
  · intro contained
    by_cases inside : targetDir <+: targetDir.join hdr.name
    · exact .inl inside
    · exact .inr (idle_of_contained contained inside)
  · rintro (inside | idle)
    · exact unpackEntry_inside stands inside
    · exact unpackEntry_idle idle

end

/-! ## Whole archives -/

/-- Every entry that is met leads into the target directory or has nothing to do. -/
def StaysInside (targetDir : Path) : FileTree Bytes → List TarEntry → Prop
  | _, [] => True
  | tree, hdr :: rest =>
    (targetDir <+: targetDir.join hdr.name ∨ Idle targetDir tree hdr) ∧
      ((unpackEntry targetDir tree hdr).err = none →
        StaysInside targetDir (unpackEntry targetDir tree hdr).tree rest)

section

variable {targetDir : Path} {tree : FileTree Bytes} {hdr : TarEntry} {rest : List TarEntry}
  {err : Option String}

theorem unpackEntries_stops {reason : String}
    (stopped : (unpackEntry targetDir tree hdr).err = some reason) :
    unpackEntries targetDir err tree (hdr :: rest) = unpackEntry targetDir tree hdr := by
  rw [unpackEntries]
  simp only [stopped]

theorem unpackEntries_goes (goes : (unpackEntry targetDir tree hdr).err = none) :
    unpackEntries targetDir err tree (hdr :: rest) =
      ⟨(unpackEntries targetDir err (unpackEntry targetDir tree hdr).tree rest).tree,
        (unpackEntry targetDir tree hdr).written ++
          (unpackEntries targetDir err (unpackEntry targetDir tree hdr).tree rest).written,
        (unpackEntries targetDir err (unpackEntry targetDir tree hdr).tree rest).err⟩ := by
  rw [unpackEntries]
  simp only [goes]

theorem unpackEntry_directory {path : Path} (stands : tree.node path = some .directory) :
    (unpackEntry targetDir tree hdr).tree.node path = some .directory := by
  rcases unpackEntry_node targetDir tree hdr path with same | ⟨absent, -⟩ | ⟨-, leaf, -⟩
  · rw [same, stands]
  · cases absent.symm.trans stands
  · exact absurd stands leaf

theorem unpackEntry_present {path : Path} (present : tree.node path ≠ none) :
    (unpackEntry targetDir tree hdr).tree.node path ≠ none := by
  rcases unpackEntry_node targetDir tree hdr path with same | ⟨absent, -⟩ | ⟨-, -, data, file⟩
  · rwa [same]
  · exact absurd absent present
  · simp [file]

theorem unpackEntries_present {path : Path} {entries : List TarEntry}
    (present : tree.node path ≠ none) :
    (unpackEntries targetDir err tree entries).tree.node path ≠ none := by
  induction entries generalizing tree with
  | nil => exact present
  | cons hdr rest ih =>
    cases result : (unpackEntry targetDir tree hdr).err with
    | some reason =>
      rw [unpackEntries_stops result]
      exact unpackEntry_present present
    | none =>
      rw [unpackEntries_goes result]
      exact ih (unpackEntry_present present)

/-- What the first entry does outside the target directory is not undone by the others. -/
theorem contained_goes_iff (goes : (unpackEntry targetDir tree hdr).err = none) :
    Contained targetDir tree (unpackEntries targetDir err tree (hdr :: rest)) ↔
      Contained targetDir tree (unpackEntry targetDir tree hdr) ∧
        Contained targetDir (unpackEntry targetDir tree hdr).tree
          (unpackEntries targetDir err (unpackEntry targetDir tree hdr).tree rest) := by
  rw [unpackEntries_goes goes]
  constructor
  · rintro ⟨kept, written⟩
    have first : Contained targetDir tree (unpackEntry targetDir tree hdr) := by
      refine ⟨fun path outside => ?_, fun path listed => written path (List.mem_append_left _ listed)⟩
      rcases unpackEntry_node targetDir tree hdr path with same | ⟨absent, made⟩ | ⟨listed, -, -⟩
      · exact same
      · have stays : (unpackEntries targetDir err (unpackEntry targetDir tree hdr).tree
            rest).tree.node path ≠ none := unpackEntries_present (by simp [made])
        exact absurd ((kept path outside).trans absent) stays
      · exact absurd (written path (List.mem_append_left _ listed)) outside
    refine ⟨first, fun path outside => ?_, fun path listed =>
      written path (List.mem_append_right _ listed)⟩
    exact (kept path outside).trans (first.kept path outside).symm
  · rintro ⟨first, later⟩
    refine ⟨fun path outside => (later.kept path outside).trans (first.kept path outside), ?_⟩
    intro path listed
    rcases List.mem_append.mp listed with listed | listed
    · exact first.written path listed
    · exact later.written path listed

theorem unpackEntries_contained_iff {entries : List TarEntry}
    (stands : tree.node targetDir = some .directory) :
    Contained targetDir tree (unpackEntries targetDir err tree entries) ↔
      StaysInside targetDir tree entries := by
  induction entries generalizing tree with
  | nil => exact iff_of_true ⟨fun _ _ => rfl, fun _ none => by cases none⟩ trivial
  | cons hdr rest ih =>
    rw [StaysInside]
    cases result : (unpackEntry targetDir tree hdr).err with
    | some reason =>
      rw [unpackEntries_stops result, unpackEntry_contained_iff stands]
      simp
    | none =>
      rw [contained_goes_iff result, unpackEntry_contained_iff stands,
        ih (unpackEntry_directory stands)]
      simp

end

end Kufi.FabricOps
