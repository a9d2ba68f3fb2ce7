import Kufi.FabricOps.Bundles
import Kufi.Gateway.Receipt
import Kufi.Shared.JsonText

set_option autoImplicit false

/-!
# Bundles of directories

What `PackageMSPDir` packs leads nowhere but into the target directory, and is
there afterwards as it was, unless a file and a directory clash.
-/

namespace Kufi.FabricOps

open Shared

/-! ## Names of a walk -/

theorem join_slash (dir : Path) (name : String) : dir.join (name ++ "/") = dir.join name := by
  have split : Path.components (name ++ "/") = Path.components name ++ [""] := by
    unfold Path.components
    rw [String.toList_append, show "/".toList = ['/'] from rfl, List.splitOn_append_cons_self,
      List.map_append]
    rfl
  rw [Path.join, split, List.foldl_append]
  rfl

theorem join_relative (dir : Path) (path : List EntryName) :
    dir.join (relative (path.map EntryName.text)) = dir ++ path.map EntryName.text := by
  unfold relative
  split
  next root =>
    rw [root, List.append_nil]
    rfl
  next below =>
    have components : ∀ name ∈ path.map EntryName.text, Path.Component name := by
      intro name listed
      obtain ⟨entry, -, rfl⟩ := List.mem_map.mp listed
      exact entry.component
    rw [Path.join, Path.components_render below fun name listed => (components name listed).single,
      Path.foldl_enter components]

theorem join_fileInfoHeader (dir : Path) (node : SourceNode) :
    dir.join (fileInfoHeader node).name = dir ++ node.path := by
  unfold fileInfoHeader
  split
  next => rw [join_slash]; exact join_relative dir node.1
  next => exact join_relative dir node.1

/-! ## What an archive can hold -/

theorem render_cons_cons (first second : String) (rest : List String) :
    (Path.render (first :: second :: rest)).toList =
      first.toList ++ '/' :: (Path.render (second :: rest)).toList := by
  simp only [Path.render, String.toList_ofList, List.map_cons, List.intercalate_cons_cons,
    List.append_assoc, List.singleton_append]

theorem mem_render {names : List String} {c : Char} (listed : c ∈ (Path.render names).toList) :
    c = '/' ∨ ∃ name ∈ names, c ∈ name.toList := by
  induction names with
  | nil => simp [Path.render] at listed
  | cons first rest ih =>
    cases rest with
    | nil => exact .inr ⟨first, List.mem_cons_self, by simpa [Path.render] using listed⟩
    | cons second rest =>
      rw [render_cons_cons, List.mem_append, List.mem_cons] at listed
      rcases listed with own | separator | later
      · exact .inr ⟨first, List.mem_cons_self, own⟩
      · exact .inl separator
      · rcases ih later with separator | ⟨name, member, own⟩
        · exact .inl separator
        · exact .inr ⟨name, List.mem_cons_of_mem _ member, own⟩

theorem getLast?_render {names : List String} (present : names ≠ [])
    (component : ∀ name ∈ names, Path.Component name) :
    ∃ c, (Path.render names).toList.getLast? = some c ∧ c ≠ '/' := by
  induction names with
  | nil => exact absurd rfl present
  | cons first rest ih =>
    rw [List.forall_mem_cons] at component
    obtain ⟨own, component⟩ := component
    cases rest with
    | nil =>
      have filled : first.toList ≠ [] := fun empty => own.named.1 (String.toList_eq_nil_iff.mp empty)
      refine ⟨first.toList.getLast filled, ?_, fun slash => own.single ?_⟩
      · simp [Path.render, List.getLast?_eq_some_getLast filled]
      · rw [← slash]
        exact List.getLast_mem filled
    | cons second rest =>
      obtain ⟨c, last, other⟩ := ih (List.cons_ne_nil _ _) component
      refine ⟨c, ?_, other⟩
      rw [render_cons_cons, List.getLast?_append, List.getLast?_cons, last]
      rfl

theorem getLast?_relative (path : List EntryName) :
    (relative (path.map EntryName.text)).toList.getLast? ≠ some '/' := by
  unfold relative
  split
  next => decide
  next below =>
    obtain ⟨c, last, other⟩ := getLast?_render below fun name listed => by
      obtain ⟨entry, -, rfl⟩ := List.mem_map.mp listed
      exact entry.component
    rw [last]
    exact fun same => other (Option.some.inj same)

theorem terminated_relative (path : List EntryName) :
    Char.ofNat 0 ∉ (relative (path.map EntryName.text)).toList := by
  unfold relative
  split
  next => decide
  next =>
    intro listed
    rcases mem_render listed with slash | ⟨name, member, own⟩
    · exact absurd slash (by decide)
    · obtain ⟨entry, -, rfl⟩ := List.mem_map.mp member
      exact entry.terminated own

theorem fileInfoHeader_portable (node : SourceNode) : (fileInfoHeader node).Portable := by
  unfold fileInfoHeader
  split
  next =>
    refine ⟨?_, .inl ⟨rfl, rfl, by simp [String.toList_append]⟩⟩
    rw [String.toList_append, List.mem_append]
    rintro (own | slash)
    · exact terminated_relative node.1 own
    · exact absurd slash (by decide)
  next => exact ⟨terminated_relative node.1, .inr ⟨rfl, getLast?_relative node.1⟩⟩

/-! ## The order of a walk -/

mutual

def SourceTree.Distinct : SourceTree → Prop
  | .file _ => True
  | .folder children => (children.map fun child => child.1.text).Nodup ∧ DistinctAll children

/-- In no folder do two entries have one name. -/
def DistinctAll : List (EntryName × SourceTree) → Prop
  | [] => True
  | (_, child) :: rest => child.Distinct ∧ DistinctAll rest

end

mutual

theorem walk_below (path : List EntryName) : ∀ (source : SourceTree),
    ∀ node ∈ walk path source, path.map EntryName.text <+: node.path
  | .file data, node, listed => by
    rw [walk, List.mem_singleton] at listed
    rw [listed]
    exact List.prefix_refl _
  | .folder children, node, listed => by
    rw [walk, List.mem_cons] at listed
    rcases listed with rfl | listed
    · exact List.prefix_refl _
    · obtain ⟨child, -, below⟩ := walkAll_below path children node listed
      rw [List.map_append] at below
      exact (List.prefix_append _ _).trans below

theorem walkAll_below (path : List EntryName) : ∀ (children : List (EntryName × SourceTree)),
    ∀ node ∈ walkAll path children,
      ∃ child ∈ children, (path ++ [child.1]).map EntryName.text <+: node.path
  | [], node, listed => by
    rw [walkAll] at listed
    cases listed
  | (name, child) :: rest, node, listed => by
    rw [walkAll, List.mem_append] at listed
    rcases listed with listed | listed
    · exact ⟨_, List.mem_cons_self, walk_below (path ++ [name]) child node listed⟩
    · obtain ⟨child, member, below⟩ := walkAll_below path rest node listed
      exact ⟨child, List.mem_cons_of_mem _ member, below⟩

end

theorem name_of_below {path : List EntryName} {first second : EntryName} {place : Path}
    (below : (path ++ [first]).map EntryName.text <+: place)
    (below' : (path ++ [second]).map EntryName.text <+: place) : first.text = second.text := by
  have same : (path ++ [first]).map EntryName.text = (path ++ [second]).map EntryName.text := by
    rcases List.prefix_or_prefix_of_prefix below below' with above | above
    · exact above.eq_of_length (by simp)
    · exact (above.eq_of_length (by simp)).symm
  simp only [List.map_append, List.map_cons, List.map_nil] at same
  simpa using List.append_cancel_left same

mutual

theorem nodup_walk (path : List EntryName) : ∀ (source : SourceTree), source.Distinct →
    ((walk path source).map SourceNode.path).Nodup
  | .file data, _ => by
    rw [walk]
    simp
  | .folder children, distinct => by
    rw [walk, List.map_cons, List.nodup_cons]
    refine ⟨fun listed => ?_, nodup_walkAll path children distinct.1 distinct.2⟩
    obtain ⟨node, member, same⟩ := List.mem_map.mp listed
    obtain ⟨child, -, below⟩ := walkAll_below path children node member
    have length := below.length_le
    rw [same] at length
    simp only [SourceNode.path, List.length_map, List.length_append, List.length_singleton] at length
    omega

theorem nodup_walkAll (path : List EntryName) : ∀ (children : List (EntryName × SourceTree)),
    (children.map fun child => child.1.text).Nodup → DistinctAll children →
    ((walkAll path children).map SourceNode.path).Nodup
  | [], _, _ => by
    rw [walkAll]
    exact List.nodup_nil
  | (name, child) :: rest, names, distinct => by
    rw [List.map_cons, List.nodup_cons] at names
    rw [walkAll, List.map_append, List.nodup_append]
    refine ⟨nodup_walk (path ++ [name]) child distinct.1, nodup_walkAll path rest names.2 distinct.2,
      ?_⟩
    intro place listed other listed' same
    obtain ⟨node, member, rfl⟩ := List.mem_map.mp listed
    obtain ⟨node', member', rfl⟩ := List.mem_map.mp listed'
    have below := walk_below (path ++ [name]) child node member
    obtain ⟨sibling, beside, below'⟩ := walkAll_below path rest node' member'
    rw [← same] at below'
    exact names.1 (List.mem_map.mpr ⟨sibling, beside, (name_of_below below below').symm⟩)

end

/-- Every entry comes after the directory that it stands in. -/
def Rooted (targetDir : Path) : List Path → List SourceNode → Prop
  | _, [] => True
  | directories, node :: rest =>
    (targetDir ++ node.path).directory ∈ directories ∧
      Rooted targetDir (if node.2.isFile then directories
        else (targetDir ++ node.path) :: directories) rest

theorem Rooted.mono {targetDir : Path} {nodes : List SourceNode} {fewer more : List Path}
    (rooted : Rooted targetDir fewer nodes) (subset : fewer ⊆ more) :
    Rooted targetDir more nodes := by
  induction nodes generalizing fewer more with
  | nil => trivial
  | cons node rest ih =>
    refine ⟨subset rooted.1, ih rooted.2 ?_⟩
    split
    · exact subset
    · exact List.cons_subset_cons _ subset

theorem Rooted.append {targetDir : Path} {before after : List SourceNode} {directories : List Path}
    (rooted : Rooted targetDir directories before) (rooted' : Rooted targetDir directories after) :
    Rooted targetDir directories (before ++ after) := by
  induction before generalizing directories with
  | nil => exact rooted'
  | cons node rest ih =>
    refine ⟨rooted.1, ih rooted.2 (rooted'.mono ?_)⟩
    split
    · exact List.Subset.refl _
    · exact List.subset_cons_self _ _

mutual

theorem rooted_walk (targetDir : Path) (path : List EntryName) : ∀ (source : SourceTree)
    {directories : List Path}, (targetDir ++ path.map EntryName.text).directory ∈ directories →
    Rooted targetDir directories (walk path source)
  | .file data, _, parent => by
    rw [walk]
    exact ⟨parent, trivial⟩
  | .folder children, _, parent => by
    rw [walk]
    exact ⟨parent, rooted_walkAll targetDir path children List.mem_cons_self⟩

theorem rooted_walkAll (targetDir : Path) (path : List EntryName) :
    ∀ (children : List (EntryName × SourceTree)) {directories : List Path},
      targetDir ++ path.map EntryName.text ∈ directories →
      Rooted targetDir directories (walkAll path children)
  | [], _, _ => by
    rw [walkAll]
    trivial
  | (name, child) :: rest, _, parent => by
    rw [walkAll]
    refine (rooted_walk targetDir (path ++ [name]) child ?_).append
      (rooted_walkAll targetDir path rest parent)
    rwa [List.map_append, ← List.append_assoc, Path.directory, List.map_singleton,
      List.dropLast_concat]

end

/-! ## Unpacking a walk -/

/-- What stands at the path already is of the kind of what comes there. -/
def Accepts (old : Option (FileNode Bytes)) (new : FileNode Bytes) : Prop :=
  ∀ entry, old = some entry → entry.isFile = new.isFile

/-- No file of the one stands where the other has a directory. -/
def Fits (targetDir : Path) (tree : FileTree Bytes) (nodes : List SourceNode) : Prop :=
  ∀ node ∈ nodes, Accepts (tree.node (targetDir ++ node.path)) node.2

/-- The nodes are below the target as they were packed, and everything else is as before. -/
structure Recreates (targetDir : Path) (tree : FileTree Bytes) (nodes : List SourceNode)
    (after : Unpacked) : Prop where
  accepted : after.err = none
  present : ∀ node ∈ nodes, after.tree.node (targetDir ++ node.path) = some node.2
  others : ∀ other, (∀ node ∈ nodes, other ≠ targetDir ++ node.path) →
    after.tree.node other = tree.node other

section

variable {targetDir : Path} {tree : FileTree Bytes}

theorem above_of_directory {path other : Path} (above : other <+: path) (proper : other ≠ path) :
    other <+: path.directory := by
  induction path using List.reverseRecOn with
  | nil => exact absurd (List.prefix_nil.mp above) proper
  | append_singleton parents name _ =>
    rw [Path.directory, List.dropLast_concat]
    exact (List.prefix_concat_iff.mp above).resolve_left proper

theorem unpackEntry_folder (path : List EntryName) :
    unpackEntry targetDir tree (fileInfoHeader (path, .directory)) =
      ⟨makeDirectory tree (targetDir ++ SourceNode.path (path, .directory)), [], none⟩ := by
  unfold unpackEntry
  dsimp only
  rw [join_fileInfoHeader]
  exact if_pos rfl

theorem unpackEntry_regular {path : List EntryName} {data : Bytes} {tree' : FileTree Bytes}
    (created : (makeDirectory tree (targetDir ++ SourceNode.path (path, .file data)).directory).create
      (targetDir ++ SourceNode.path (path, .file data)) data = .ok tree') :
    unpackEntry targetDir tree (fileInfoHeader (path, .file data)) =
      ⟨tree', [targetDir ++ SourceNode.path (path, .file data)], none⟩ := by
  have regular : ¬ (fileInfoHeader (path, .file data)).typeflag = typeDir := by
    change ¬ typeReg = typeDir
    decide
  unfold unpackEntry
  dsimp only
  rw [join_fileInfoHeader, if_neg regular,
    show (fileInfoHeader (path, .file data)).data = data from rfl, created]

/-- A directory whose parent stands is made, and nothing beside it. -/
theorem unpackEntry_makes {path : List EntryName}
    (parent : tree.node (targetDir ++ SourceNode.path (path, .directory)).directory =
      some .directory)
    (accepts : Accepts (tree.node (targetDir ++ SourceNode.path (path, .directory))) .directory)
    (other : Path) :
    (makeDirectory tree (targetDir ++ SourceNode.path (path, .directory))).node other =
      if other = targetDir ++ SourceNode.path (path, .directory) then some .directory
      else tree.node other := by
  generalize targetDir ++ SourceNode.path (path, .directory) = place at parent accepts
  have free : ¬ tree.Blocked place := by
    rw [FileTree.blocked_iff]
    rintro ⟨above, data, higher, file⟩
    by_cases same : above = place
    · rw [same] at file
      cases accepts _ file
    · rw [FileTree.directory_of_above parent (above_of_directory higher same)] at file
      cases file
  rw [makeDirectory_free free]
  by_cases same : other = place
  · rw [if_pos same, if_pos (same ▸ List.prefix_refl _)]
  · rw [if_neg same]
    split
    next above =>
      rw [FileTree.directory_of_above parent (above_of_directory above same)]
    next => rfl

/-- An entry whose directory stands is put there. -/
theorem unpackEntry_fileInfoHeader {node : SourceNode}
    (parent : tree.node (targetDir ++ node.path).directory = some .directory)
    (accepts : Accepts (tree.node (targetDir ++ node.path)) node.2) :
    (unpackEntry targetDir tree (fileInfoHeader node)).err = none ∧
      ∀ other, (unpackEntry targetDir tree (fileInfoHeader node)).tree.node other =
        if other = targetDir ++ node.path then some node.2 else tree.node other := by
  obtain ⟨path, entry⟩ := node
  cases entry with
  | directory =>
    rw [unpackEntry_folder]
    exact ⟨rfl, unpackEntry_makes parent accepts⟩
  | file data =>
    have leaf : tree.node (targetDir ++ SourceNode.path (path, .file data)) ≠ some .directory := by
      intro stands
      cases accepts _ stands
    have inside : targetDir ++ SourceNode.path (path, .file data) ≠ [] := by
      intro root
      rw [root] at leaf
      exact leaf tree.root
    obtain ⟨tree', created, nodes⟩ := FileTree.create_eq_ok data inside
      (by rw [makeDirectory_stands parent]; exact leaf)
      (by rw [makeDirectory_stands parent, parent])
    rw [unpackEntry_regular created]
    refine ⟨rfl, fun other => ?_⟩
    rw [nodes, makeDirectory_stands parent]

theorem unpackEntries_walk {nodes : List SourceNode} {directories : List Path}
    (rooted : Rooted targetDir directories nodes)
    (stand : ∀ path ∈ directories, tree.node path = some .directory)
    (distinct : (nodes.map SourceNode.path).Nodup) (fits : Fits targetDir tree nodes) :
    Recreates targetDir tree nodes
      (unpackEntries targetDir none tree (nodes.map fileInfoHeader)) := by
  induction nodes generalizing tree directories with
  | nil => exact ⟨rfl, nofun, fun _ _ => rfl⟩
  | cons node rest ih =>
    rw [List.map_cons, List.nodup_cons] at distinct
    obtain ⟨parent, rooted⟩ := rooted
    have fits' := List.forall_mem_cons.mp fits
    obtain ⟨goes, nodes⟩ := unpackEntry_fileInfoHeader (stand _ parent) fits'.1
    rw [List.map_cons, unpackEntries_goes goes]
    have apart : ∀ other ∈ rest, targetDir ++ other.path ≠ targetDir ++ node.path := by
      intro other listed same
      exact distinct.1 (List.mem_map.mpr ⟨other, listed, List.append_cancel_left same⟩)
    have later : Recreates targetDir (unpackEntry targetDir tree (fileInfoHeader node)).tree rest
        (unpackEntries targetDir none (unpackEntry targetDir tree (fileInfoHeader node)).tree
          (rest.map fileInfoHeader)) := by
      refine ih rooted ?stand distinct.2 ?fits
      case stand =>
        intro path listed
        split at listed
        next => exact unpackEntry_directory (stand path listed)
        next folder =>
          rcases List.mem_cons.mp listed with rfl | listed
          · rw [nodes, if_pos rfl]
            cases entry : node.2 with
            | directory => rfl
            | file data => simp [entry, FileNode.isFile] at folder
          · exact unpackEntry_directory (stand path listed)
      case fits =>
        intro other listed
        rw [nodes, if_neg (apart other listed)]
        exact fits'.2 other listed
    constructor
    case accepted => exact later.accepted
    case present =>
      refine List.forall_mem_cons.mpr ⟨?_, later.present⟩
      have kept := later.others (targetDir ++ node.path) fun other listed =>
        (apart other listed).symm
      rw [kept, nodes, if_pos rfl]
    case others =>
      intro other absent
      have absent' := List.forall_mem_cons.mp absent
      have kept := later.others other absent'.2
      rw [kept, nodes, if_neg absent'.1]

/-- A file stays a file. -/
theorem unpackEntries_file {path : Path} {entries : List TarEntry} {err : Option String}
    {data : Bytes} (stands : tree.node path = some (.file data)) :
    ∃ data, (unpackEntries targetDir err tree entries).tree.node path = some (.file data) := by
  induction entries generalizing tree data with
  | nil => exact ⟨data, stands⟩
  | cons hdr rest ih =>
    have first : ∃ data, (unpackEntry targetDir tree hdr).tree.node path = some (.file data) := by
      rcases unpackEntry_node targetDir tree hdr path with same | ⟨absent, -⟩ | ⟨-, -, written⟩
      · exact ⟨data, same.trans stands⟩
      · cases absent.symm.trans stands
      · exact written
    obtain ⟨data', first⟩ := first
    cases result : (unpackEntry targetDir tree hdr).err with
    | some reason =>
      rw [unpackEntries_stops result]
      exact ⟨data', first⟩
    | none =>
      rw [unpackEntries_goes result]
      exact ih first

theorem unpackEntries_directory {path : Path} {entries : List TarEntry} {err : Option String}
    (stands : tree.node path = some .directory) :
    (unpackEntries targetDir err tree entries).tree.node path = some .directory := by
  induction entries generalizing tree with
  | nil => exact stands
  | cons hdr rest ih =>
    cases result : (unpackEntry targetDir tree hdr).err with
    | some reason =>
      rw [unpackEntries_stops result]
      exact unpackEntry_directory stands
    | none =>
      rw [unpackEntries_goes result]
      exact ih (unpackEntry_directory stands)

theorem fits_of_recreates {nodes : List SourceNode} {entries : List TarEntry}
    {err : Option String}
    (recreates : Recreates targetDir tree nodes (unpackEntries targetDir err tree entries)) :
    Fits targetDir tree nodes := by
  intro node listed entry stands
  have present := recreates.present node listed
  cases entry with
  | directory =>
    rw [unpackEntries_directory stands] at present
    rw [← Option.some.inj present]
  | file data =>
    obtain ⟨data', kept⟩ := unpackEntries_file stands
    rw [kept] at present
    rw [← Option.some.inj present]
    rfl

theorem staysInside_walk {nodes : List SourceNode} :
    StaysInside targetDir tree (nodes.map fileInfoHeader) := by
  induction nodes generalizing tree with
  | nil => trivial
  | cons node rest ih =>
    rw [List.map_cons, StaysInside, join_fileInfoHeader]
    exact ⟨.inl (List.prefix_append _ _), fun _ => ih⟩

end

/-! ## Bundles -/

/-- The entries that the readers find in a bundle. -/
def bundleEntries (codec : Codec) (b64Data : String) : List TarEntry :=
  match codec.decodeString b64Data with
  | .error _ => []
  | .ok data =>
    match codec.gzipReader data with
    | .error _ => []
    | .ok archive => archive.entries

/-- Extraction creates and overwrites only paths in the target directory, and what was packed is
there again. -/
structure ExtractsFaithfully (codec : Codec) (b64Data : String) (targetDir : Path)
    (tree : FileTree Bytes) : Prop where
  contained : Contained targetDir tree (unpackMSPBundle codec b64Data targetDir tree)
  faithful : ∀ mspDir source, source.Distinct → b64Data = packageMSPDir codec mspDir source →
    Recreates targetDir tree (walk (relBase mspDir) source)
      (unpackMSPBundle codec b64Data targetDir tree)

section

variable {codec : Codec} {targetDir : Path} {tree : FileTree Bytes}

theorem unpackMSPBundle_contained_iff (stands : tree.node targetDir = some .directory)
    (b64Data : String) :
    Contained targetDir tree (unpackMSPBundle codec b64Data targetDir tree) ↔
      StaysInside targetDir tree (bundleEntries codec b64Data) := by
  unfold unpackMSPBundle bundleEntries
  cases codec.decodeString b64Data with
  | error err => exact iff_of_true ⟨fun _ _ => rfl, nofun⟩ trivial
  | ok data =>
    dsimp only
    cases codec.gzipReader data with
    | error err => exact iff_of_true ⟨fun _ _ => rfl, nofun⟩ trivial
    | ok archive => exact unpackEntries_contained_iff stands

theorem gzipReader_walk (lawful : codec.Lawful) (nodes : List SourceNode) :
    codec.gzipReader (codec.tarGz (nodes.map fileInfoHeader)) =
      .ok ⟨nodes.map fileInfoHeader, none⟩ := by
  refine lawful.read _ fun entry listed => ?_
  obtain ⟨node, -, rfl⟩ := List.mem_map.mp listed
  exact fileInfoHeader_portable node

theorem bundleEntries_package (lawful : codec.Lawful) (mspDir : List EntryName)
    (source : SourceTree) :
    bundleEntries codec (packageMSPDir codec mspDir source) =
      (walk (relBase mspDir) source).map fileInfoHeader := by
  simp only [bundleEntries, packageMSPDir, lawful.decoded, gzipReader_walk lawful]

theorem unpackMSPBundle_package (lawful : codec.Lawful) (mspDir : List EntryName)
    (source : SourceTree) :
    unpackMSPBundle codec (packageMSPDir codec mspDir source) targetDir tree =
      unpackEntries targetDir none tree ((walk (relBase mspDir) source).map fileInfoHeader) := by
  simp only [unpackMSPBundle, packageMSPDir, lawful.decoded, gzipReader_walk lawful]

theorem directory_relBase (stands : tree.node targetDir = some .directory)
    (mspDir : List EntryName) :
    tree.node (targetDir ++ (relBase mspDir).map EntryName.text).directory = some .directory := by
  unfold relBase
  induction mspDir using List.reverseRecOn with
  | nil =>
    rw [List.drop_nil, List.map_nil, List.append_nil]
    exact tree.closed targetDir (by simp [stands])
  | append_singleton parents name _ =>
    rw [List.dropLast_concat, List.drop_left, List.map_singleton, Path.directory,
      List.dropLast_concat, stands]

/-- A packed directory comes out as it was unless a file and a directory clash. -/
theorem recreates_package_iff (lawful : codec.Lawful)
    (stands : tree.node targetDir = some .directory) {mspDir : List EntryName}
    {source : SourceTree} (distinct : source.Distinct) :
    Recreates targetDir tree (walk (relBase mspDir) source)
        (unpackMSPBundle codec (packageMSPDir codec mspDir source) targetDir tree) ↔
      Fits targetDir tree (walk (relBase mspDir) source) := by
  rw [unpackMSPBundle_package lawful]
  constructor
  · exact fits_of_recreates
  · refine unpackEntries_walk (rooted_walk targetDir (relBase mspDir) source
      (List.mem_singleton_self _)) ?_ (nodup_walk _ source distinct)
    intro path listed
    rw [List.mem_singleton.mp listed]
    exact directory_relBase stands mspDir

/-- A packed directory never leaves the target. -/
theorem package_staysInside (lawful : codec.Lawful) (mspDir : List EntryName)
    (source : SourceTree) :
    StaysInside targetDir tree (bundleEntries codec (packageMSPDir codec mspDir source)) := by
  rw [bundleEntries_package lawful]
  exact staysInside_walk

theorem extracts_faithfully_iff (lawful : codec.Lawful)
    (stands : tree.node targetDir = some .directory) (b64Data : String) :
    ExtractsFaithfully codec b64Data targetDir tree ↔
      StaysInside targetDir tree (bundleEntries codec b64Data) ∧
        ∀ mspDir source, source.Distinct → b64Data = packageMSPDir codec mspDir source →
          Fits targetDir tree (walk (relBase mspDir) source) := by
  rw [← unpackMSPBundle_contained_iff stands]
  constructor
  · rintro ⟨contained, faithful⟩
    refine ⟨contained, fun mspDir source distinct packed => ?_⟩
    have recreates := faithful mspDir source distinct packed
    rw [packed] at recreates
    exact (recreates_package_iff lawful stands distinct).mp recreates
  · rintro ⟨contained, fits⟩
    refine ⟨contained, fun mspDir source distinct packed => ?_⟩
    have fits' := fits mspDir source distinct packed
    rw [packed]
    exact (recreates_package_iff lawful stands distinct).mpr fits'

end

/-! ## A bundle with a name that leads out -/

def strayBundle : String :=
  "H4sIAAAAAAACA9PT008ty8xhoCUwAAIzExMwDQToNBAYIrFB4uYGxoYMCgYMdAClxSWJRUArGUYmqGAYBaNgFIyCUTASAQAd" ++
    "DyYnAAgAAA=="

def strayArchive : Bytes :=
  [31, 139, 8, 0, 0, 0, 0, 0, 2, 3, 211, 211, 211, 79, 45, 203, 204, 97, 160, 37, 48, 0, 2, 51,
    19, 19, 48, 13, 4, 232, 52, 16, 24, 34, 177, 65, 226, 230, 6, 198, 134, 12, 10, 6, 12, 116,
    0, 165, 197, 37, 137, 69, 64, 43, 25, 70, 38, 168, 96, 24, 5, 163, 96, 20, 140, 130, 81, 48,
    18, 1, 0, 29, 15, 38, 39, 0, 8, 0, 0]

def strayEntry : TarEntry := ⟨"../evil", typeReg, [120]⟩

def entryJson (entry : TarEntry) : Json :=
  .array
    [.string entry.name, .string (String.singleton entry.typeflag),
      .array (entry.data.map fun byte => .number byte.toNat)]

def byteOf : Json → UInt8
  | .number n => UInt8.ofNat n.toNat
  | _ => 0

def readEntry : Json → Option TarEntry
  | .array [.string name, .string typeflag, .array data] =>
    some ⟨name, typeflag.toList.headD typeReg, data.map byteOf⟩
  | _ => none

theorem readEntry_entryJson (entry : TarEntry) : readEntry (entryJson entry) = some entry := by
  have bytes : (entry.data.map fun byte => Json.number byte.toNat).map byteOf = entry.data := by
    rw [List.map_map]
    conv_rhs => rw [← List.map_id entry.data]
    refine List.map_congr_left fun byte _ => ?_
    simp [byteOf]
  rw [entryJson, readEntry, bytes, String.toList_singleton]
  rfl

-- What base64, gzip and tar do with the bundle; other archives and texts are not theirs.
def sampleCodec : Codec where
  encodeToString data :=
    if data = strayArchive then strayBundle
    else String.ofList ('!' :: data.map fun byte => Char.ofNat byte.toNat)
  decodeString text :=
    if text = strayBundle then .ok strayArchive
    else
      match text.toList with
      | '!' :: rest => .ok (rest.map fun c => UInt8.ofNat c.toNat)
      | _ => .error "illegal base64 data at input byte 0"
  tarGz entries := 0 :: Gateway.utf8 (Json.array (entries.map entryJson)).encode
  gzipReader data :=
    if data = strayArchive then .ok ⟨[strayEntry], none⟩
    else
      match Json.parse (Gateway.decodeUtf8 data.length data.tail) with
      | some (.array items) => .ok ⟨items.filterMap readEntry, none⟩
      | _ => .error "gzip: invalid header"

theorem ofNat_toNat_byte (byte : UInt8) : UInt8.ofNat (Char.ofNat byte.toNat).toNat = byte := by
  have small := byte.toNat_lt
  have valid : byte.toNat.isValidChar := .inl (by omega)
  have code : (Char.ofNat byte.toNat).toNat = byte.toNat := by
    rw [Char.ofNat, dif_pos valid]
    rfl
  rw [code, UInt8.ofNat_toNat]

theorem sampleCodec_decoded (data : Bytes) :
    sampleCodec.decodeString (sampleCodec.encodeToString data) = .ok data := by
  by_cases stray : data = strayArchive
  · simp [sampleCodec, stray]
  · have bytes : (data.map fun byte => Char.ofNat byte.toNat).map (fun c => UInt8.ofNat c.toNat) =
        data := by
      rw [List.map_map]
      conv_rhs => rw [← List.map_id data]
      exact List.map_congr_left fun byte _ => ofNat_toNat_byte byte
    have other : String.ofList ('!' :: data.map fun byte => Char.ofNat byte.toNat) ≠ strayBundle := by
      intro same
      have head := congrArg (fun text => text.toList.head?) same
      simp only [String.toList_ofList, List.head?_cons] at head
      exact absurd head (by decide +kernel)
    simp only [sampleCodec, if_neg stray, if_neg other, String.toList_ofList, bytes]

theorem sampleCodec_read (entries : List TarEntry) :
    sampleCodec.gzipReader (sampleCodec.tarGz entries) = .ok ⟨entries, none⟩ := by
  have other : (0 :: Gateway.utf8 (Json.array (entries.map entryJson)).encode : Bytes) ≠
      strayArchive := by
    intro same
    exact absurd (List.cons.inj same).1 (by decide)
  have items : (entries.map entryJson).filterMap readEntry = entries := by
    rw [List.filterMap_map, show readEntry ∘ entryJson = some from funext readEntry_entryJson,
      List.filterMap_some]
  simp only [sampleCodec, if_neg other, List.tail_cons, List.length_cons]
  rw [Gateway.decodeUtf8_utf8 _ (Nat.le_succ _), Json.parse_encode]
  dsimp only
  rw [items]

theorem sampleCodec_lawful : sampleCodec.Lawful where
  decoded := sampleCodec_decoded
  read entries _ := sampleCodec_read entries

def orgsTree : FileTree Bytes := makeDirectory .empty ["srv", "orgs"]

theorem orgsTree_stands : orgsTree.node ["srv", "orgs"] = some .directory := rfl

theorem extracts_faithfully_iff_strayBundle :
    ExtractsFaithfully sampleCodec strayBundle ["srv", "orgs"] orgsTree ↔
      StaysInside ["srv", "orgs"] orgsTree (bundleEntries sampleCodec strayBundle) ∧
        ∀ mspDir source, source.Distinct → strayBundle = packageMSPDir sampleCodec mspDir source →
          Fits ["srv", "orgs"] orgsTree (walk (relBase mspDir) source) :=
  extracts_faithfully_iff sampleCodec_lawful orgsTree_stands strayBundle

-- The file is written beside the target directory.
theorem bundle_leaves_target :
    ¬ ∀ (codec : Codec) (targetDir : Path) (tree : FileTree Bytes) (b64Data : String),
      codec.Lawful → tree.node targetDir = some .directory →
      ExtractsFaithfully codec b64Data targetDir tree := by
  intro extracts
  have contained := (extracts sampleCodec ["srv", "orgs"] orgsTree strayBundle sampleCodec_lawful
    orgsTree_stands).contained
  have written : ["srv", "evil"] ∈
      (unpackMSPBundle sampleCodec strayBundle ["srv", "orgs"] orgsTree).written := by
    decide +kernel
  exact absurd (contained.written _ written) (by decide)

end Kufi.FabricOps
