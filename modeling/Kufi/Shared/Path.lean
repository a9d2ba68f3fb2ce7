import Mathlib.Data.List.Basic

set_option autoImplicit false

/-!
# File paths

An absolute path is the list of its components. Joining a name cleans the
result as `filepath.Join` does, so `..` in a name leaves the directory.
-/

namespace Shared

abbrev Path := List String

namespace Path

def components (name : String) : List String :=
  (name.toList.splitOn '/').map String.ofList

def enter (path : Path) (part : String) : Path :=
  if part = "" ∨ part = "." then path
  else if part = ".." then path.dropLast
  else path ++ [part]

def join (dir : Path) (name : String) : Path :=
  (components name).foldl enter dir

def directory (path : Path) : Path := path.dropLast

/-- The name of a file with this extension, without the extension. -/
def stripExtension (extension name : String) : Option String :=
  let length := name.toList.length - extension.toList.length
  if name.toList.drop length = extension.toList then some (String.ofList (name.toList.take length))
  else none

theorem append_of_stripExtension {extension name stem : String}
    (stripped : stripExtension extension name = some stem) : name = stem ++ extension := by
  unfold stripExtension at stripped
  dsimp only at stripped
  split at stripped
  next ends =>
    have chars := List.take_append_drop (name.toList.length - extension.toList.length) name.toList
    rw [ends] at chars
    rw [← Option.some.inj stripped]
    apply String.toList_inj.mp
    rw [String.toList_append, String.toList_ofList, chars]
  next => cases stripped

theorem stripExtension_append (extension stem : String) :
    stripExtension extension (stem ++ extension) = some stem := by
  unfold stripExtension
  simp [String.toList_append]

/-- A name that a directory can give to an entry. -/
structure Component (name : String) : Prop where
  single : '/' ∉ name.toList
  named : name ≠ "" ∧ name ≠ "." ∧ name ≠ ".."

/-- A name without a separator is a component of its own. -/
theorem join_of_component {dir : Path} {name : String} (component : '/' ∉ name.toList)
    (named : name ≠ "" ∧ name ≠ "." ∧ name ≠ "..") : join dir name = dir ++ [name] := by
  rw [join, components, List.splitOn_eq_singleton component]
  simp only [List.map_cons, List.map_nil, String.ofList_toList, List.foldl_cons, List.foldl_nil]
  rw [enter, if_neg (by simp [named]), if_neg named.2.2]

/-- The names with separators between them. -/
def render (names : List String) : String :=
  String.ofList (List.intercalate ['/'] (names.map String.toList))

theorem components_render {names : List String} (some : names ≠ [])
    (single : ∀ name ∈ names, '/' ∉ name.toList) : components (render names) = names := by
  rw [components, render, String.toList_ofList, List.splitOn_intercalate]
  · rw [List.map_map, show String.ofList ∘ String.toList = id from funext fun _ => by simp,
      List.map_id]
  · intro text listed
    obtain ⟨name, member, rfl⟩ := List.mem_map.mp listed
    exact single name member
  · exact fun none => some (List.map_eq_nil_iff.mp none)

theorem foldl_enter {dir : Path} {names : List String}
    (component : ∀ name ∈ names, Component name) : names.foldl enter dir = dir ++ names := by
  induction names generalizing dir with
  | nil => simp
  | cons name rest ih =>
    rw [List.forall_mem_cons] at component
    have named := component.1.named
    rw [List.foldl_cons, enter, if_neg (by simp [named]), if_neg named.2.2, ih component.2,
      List.append_assoc, List.singleton_append]

end Path

end Shared
