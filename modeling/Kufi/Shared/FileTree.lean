import Kufi.Shared.Path
import Mathlib.Data.List.Infix

set_option autoImplicit false

/-!
# File trees

The directories and regular files below a root. Every entry stands in a
directory, which a tree carries as a field, so no operation leaves an orphan.
-/

namespace Shared

inductive FileNode (C : Type) where
  | directory
  | file (content : C)
  deriving DecidableEq

def FileNode.isFile {C : Type} : FileNode C → Bool
  | .directory => false
  | .file _ => true

structure FileTree (C : Type) where
  node : Path → Option (FileNode C)
  root : node [] = some .directory
  closed : ∀ path, node path ≠ none → node path.directory = some .directory

namespace FileTree

variable {C : Type} {tree : FileTree C} {path other : Path}

def empty : FileTree C where
  node path := if path = [] then some .directory else none
  root := rfl
  closed path present := by
    by_cases first : path = []
    · rw [first]
      rfl
    · simp [first] at present

/-- What stands above an entry is a directory. -/
theorem directory_above (present : tree.node path ≠ none) (above : other <+: path)
    (proper : other ≠ path) : tree.node other = some .directory := by
  induction path using List.reverseRecOn generalizing other with
  | nil => exact absurd (List.prefix_nil.mp above) proper
  | append_singleton parents name ih =>
    have parent := tree.closed _ present
    rw [Path.directory, List.dropLast_concat] at parent
    have higher := (List.prefix_concat_iff.mp above).resolve_left proper
    by_cases same : other = parents
    · rw [same, parent]
    · exact ih (by simp [parent]) higher same

theorem directory_of_above (stands : tree.node path = some .directory) (above : other <+: path) :
    tree.node other = some .directory := by
  by_cases same : other = path
  · rw [same, stands]
  · exact directory_above (by simp [stands]) above same

/-! ## Placing an entry -/

def put (tree : FileTree C) (path : Path) (entry : FileNode C)
    (inside : path ≠ []) (parent : tree.node path.directory = some .directory)
    (leaf : tree.node path ≠ some .directory) : FileTree C where
  node other := if other = path then some entry else tree.node other
  root := by rw [if_neg inside.symm, tree.root]
  closed other present := by
    have shorter : path.directory ≠ path := by
      intro same
      have length := congrArg List.length same
      have positive := List.length_pos_iff.mpr inside
      simp only [Path.directory, List.length_dropLast] at length
      omega
    by_cases same : other = path
    · rw [same, if_neg shorter, parent]
    · rw [if_neg same] at present
      have above := tree.closed other present
      have apart : other.directory ≠ path := by
        intro below
        rw [below] at above
        exact leaf above
      rw [if_neg apart, above]

/-- A file stands in the way of the directory. -/
def Blocked (tree : FileTree C) (path : Path) : Prop :=
  ∃ above ∈ path.inits, (tree.node above).any FileNode.isFile = true

instance (tree : FileTree C) (path : Path) : Decidable (tree.Blocked path) :=
  inferInstanceAs (Decidable (∃ _ ∈ _, _))

/-- Why an entry cannot be placed in this directory. -/
def missing (tree : FileTree C) (directory : Path) : String :=
  if tree.Blocked directory then "not a directory" else "no such file or directory"

theorem isFile_iff {entry : Option (FileNode C)} :
    entry.any FileNode.isFile = true ↔ ∃ content, entry = some (.file content) := by
  match entry with
  | none | some .directory | some (.file content) => simp [FileNode.isFile]

theorem blocked_iff :
    tree.Blocked path ↔ ∃ above content, above <+: path ∧ tree.node above = some (.file content) := by
  simp only [Blocked, List.mem_inits, isFile_iff, ← exists_and_left]

theorem not_blocked_of_directory (stands : tree.node path = some .directory) :
    ¬ tree.Blocked path := by
  rw [blocked_iff]
  rintro ⟨above, content, higher, file⟩
  rw [directory_of_above stands higher] at file
  cases file

/-! ## Operations -/

variable [DecidableEq C]

def place (tree : FileTree C) (path : Path) (entry : FileNode C)
    (leaf : path ≠ [] ∧ tree.node path ≠ some .directory) : Except String (FileTree C) :=
  if parent : tree.node path.directory = some .directory then
    .ok (tree.put path entry leaf.1 parent leaf.2)
  else .error (tree.missing path.directory)

def mkdir (tree : FileTree C) (path : Path) : Except String (FileTree C) :=
  if free : path ≠ [] ∧ tree.node path = none then
    tree.place path .directory ⟨free.1, by simp [free.2]⟩
  else .error "file exists"

/-- Opens the file for writing and truncates it; then its content is written. -/
def create (tree : FileTree C) (path : Path) (content : C) :
    Except String (FileTree C) :=
  if leaf : path ≠ [] ∧ tree.node path ≠ some .directory then
    tree.place path (.file content) leaf
  else .error "is a directory"

-- The names from the last one on, as the recursion meets them.
def mkdirFrom (tree : FileTree C) : List String → Except String (FileTree C)
  | [] => .ok tree
  | name :: above =>
    match tree.node (name :: above).reverse with
    | some .directory => .ok tree
    | some (.file _) => .error "not a directory"
    | none =>
      match mkdirFrom tree above with
      | .error err => .error err
      | .ok made => made.mkdir (name :: above).reverse

/-- Makes the directory with those that are missing above it. -/
def mkdirAll (tree : FileTree C) (path : Path) : Except String (FileTree C) :=
  mkdirFrom tree path.reverse

theorem place_eq_ok (entry : FileNode C) (leaf : path ≠ [] ∧ tree.node path ≠ some .directory)
    (parent : tree.node path.directory = some .directory) :
    ∃ tree', tree.place path entry leaf = .ok tree' ∧
      ∀ other, tree'.node other = if other = path then some entry else tree.node other := by
  refine ⟨tree.put path entry leaf.1 parent leaf.2, ?_, fun _ => rfl⟩
  rw [place, dif_pos parent]

theorem mkdirAll_append (tree : FileTree C) (parents : Path) (name : String) :
    tree.mkdirAll (parents ++ [name]) =
      match tree.node (parents ++ [name]) with
      | some .directory => .ok tree
      | some (.file _) => .error "not a directory"
      | none =>
        match tree.mkdirAll parents with
        | .error err => .error err
        | .ok made => made.mkdir (parents ++ [name]) := by
  have whole : (name :: parents.reverse).reverse = parents ++ [name] := by simp
  unfold mkdirAll
  rw [List.reverse_append, List.reverse_singleton, List.singleton_append, mkdirFrom, whole]

/-- Where no file is in the way the directory is made, with those above it, and nothing else. -/
theorem mkdirAll_eq_ok (free : ¬ tree.Blocked path) :
    ∃ tree', tree.mkdirAll path = .ok tree' ∧
      ∀ other, tree'.node other =
        if other <+: path then some .directory else tree.node other := by
  induction path using List.reverseRecOn with
  | nil =>
    refine ⟨tree, rfl, fun other => ?_⟩
    split
    next above => rw [List.prefix_nil.mp above, tree.root]
    next => rfl
  | append_singleton parents name ih =>
    have free' : ¬ tree.Blocked parents := by
      rw [blocked_iff] at free ⊢
      rintro ⟨above, content, higher, file⟩
      exact free ⟨above, content, higher.trans (List.prefix_append _ _), file⟩
    rw [mkdirAll_append]
    cases stands : tree.node (parents ++ [name]) with
    | some entry =>
      cases entry with
      | directory =>
        refine ⟨tree, rfl, fun other => ?_⟩
        split
        next above => exact directory_of_above stands above
        next => rfl
      | file content =>
        exact absurd (blocked_iff.mpr ⟨_, content, List.prefix_refl _, stands⟩) free
    | none =>
      obtain ⟨made, accepted, nodes⟩ := ih free'
      have absent : made.node (parents ++ [name]) = none := by
        rw [nodes, if_neg, stands]
        intro above
        have length := above.length_le
        simp only [List.length_append, List.length_singleton] at length
        omega
      have parent : made.node (Path.directory (parents ++ [name])) = some .directory := by
        rw [Path.directory, List.dropLast_concat, nodes, if_pos (List.prefix_refl _)]
      have leaf : parents ++ [name] ≠ [] ∧ made.node (parents ++ [name]) ≠ some .directory :=
        ⟨by simp, by simp [absent]⟩
      obtain ⟨tree', placed, nodes'⟩ := place_eq_ok .directory leaf parent
      refine ⟨tree', ?_, fun other => ?_⟩
      · rw [accepted]
        dsimp only
        rw [mkdir, dif_pos ⟨leaf.1, absent⟩, placed]
      · rw [nodes', nodes]
        simp only [List.prefix_concat_iff]
        split_ifs <;> first | rfl | tauto

theorem mkdirAll_eq_error (blocked : tree.Blocked path) : ∃ err, tree.mkdirAll path = .error err := by
  induction path using List.reverseRecOn with
  | nil =>
    obtain ⟨above, content, higher, file⟩ := blocked_iff.mp blocked
    rw [List.prefix_nil.mp higher, tree.root] at file
    cases file
  | append_singleton parents name ih =>
    rw [mkdirAll_append]
    cases stands : tree.node (parents ++ [name]) with
    | some entry =>
      cases entry with
      | directory => exact absurd blocked (not_blocked_of_directory stands)
      | file content => exact ⟨_, rfl⟩
    | none =>
      have blocked' : tree.Blocked parents := by
        obtain ⟨above, content, higher, file⟩ := blocked_iff.mp blocked
        rcases List.prefix_concat_iff.mp higher with rfl | higher
        · rw [stands] at file
          cases file
        · exact blocked_iff.mpr ⟨above, content, higher, file⟩
      obtain ⟨err, failed⟩ := ih blocked'
      exact ⟨err, by rw [failed]⟩

theorem create_eq_ok (content : C) (inside : path ≠ []) (leaf : tree.node path ≠ some .directory)
    (parent : tree.node path.directory = some .directory) :
    ∃ tree', tree.create path content = .ok tree' ∧
      ∀ other, tree'.node other = if other = path then some (.file content) else tree.node other := by
  obtain ⟨tree', placed, nodes⟩ := place_eq_ok (.file content) ⟨inside, leaf⟩ parent
  exact ⟨tree', by rw [create, dif_pos ⟨inside, leaf⟩, placed], nodes⟩

/-- What a creation that succeeds has found and what it writes. -/
theorem create_created {content : C} {tree' : FileTree C}
    (created : tree.create path content = .ok tree') :
    tree.node path ≠ some .directory ∧ tree.node path.directory = some .directory ∧
      ∀ other, tree'.node other = if other = path then some (.file content) else tree.node other := by
  unfold create place at created
  split_ifs at created with leaf parent
  obtain rfl := Except.ok.inj created
  exact ⟨leaf.2, parent, fun _ => rfl⟩

theorem create_directory {content : C} (stands : tree.node path = some .directory) :
    tree.create path content = .error "is a directory" := by
  rw [create, dif_neg]
  simp [stands]

theorem create_missing {content : C}
    (parent : tree.node path.directory ≠ some .directory) :
    ∃ err, tree.create path content = .error err := by
  unfold create place
  split_ifs
  · exact ⟨_, rfl⟩
  · exact ⟨_, rfl⟩

end FileTree

end Shared
