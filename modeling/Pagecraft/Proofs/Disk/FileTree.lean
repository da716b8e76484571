import Pagecraft.Disk.FileTree

/-! What a file put into a folder changes in a tree: the place of the file and, as long as no folder
stood there, nothing else. -/
namespace Pagecraft.FileTree

/-- A node without what is in it. -/
def surface : FileTree → FileTree
  | .folder _ => .folder []
  | tree => tree

/-- What stands at a place by itself, so that a folder is the same whatever is in it. -/
def look? (tree : FileTree) (place : Place) : Option FileTree := (tree.get? place).map surface

theorem isFolder_surface (tree : FileTree) : tree.surface.isFolder = tree.isFolder := by
  cases tree <;> rfl

theorem any_isFolder_look? (tree : FileTree) (place : Place) :
    (tree.look? place).any isFolder = (tree.get? place).any isFolder := by
  unfold look?
  cases tree.get? place with
  | none => rfl
  | some node => exact isFolder_surface node

theorem exists_entries {tree : FileTree} {place : Place}
    (folder : (tree.get? place).any isFolder) :
    ∃ entries, tree.get? place = some (.folder entries) := by
  cases there : tree.get? place with
  | none => simp [there] at folder
  | some node =>
    cases node with
    | folder entries => exact ⟨entries, rfl⟩
    | file bytes => simp [there, isFolder] at folder
    | link target => simp [there, isFolder] at folder

theorem look?_eq_some_iff {tree node : FileTree} (leaf : node.isFolder = false) {place : Place} :
    tree.look? place = some node ↔ tree.get? place = some node := by
  unfold look?
  cases tree.get? place with
  | none => simp
  | some there => cases there <;> cases node <;> simp [surface, isFolder] at leaf ⊢

theorem get?_append (tree : FileTree) (above below : Place) :
    tree.get? (above ++ below) = (tree.get? above).bind (get? below) := by
  induction above generalizing tree with
  | nil => rfl
  | cons name above ih =>
    cases tree with
    | folder entries =>
      rw [List.cons_append, get?, get?, Option.bind_assoc]
      congr 1
      funext child
      exact ih child
    | file bytes => rfl
    | link target => rfl

theorem get?_child {tree : FileTree} {parent : Place} {entries : List (Text × FileTree)}
    (folder : tree.get? parent = some (.folder entries)) (name : Text) :
    tree.get? (parent ++ [name]) = Keyed.get? name entries := by
  rw [get?_append, folder, Option.bind_some, get?]
  cases Keyed.get? name entries <;> rfl

theorem get?_of_not_isFolder {tree : FileTree} (leaf : ¬tree.isFolder) {place : Place}
    (deeper : place ≠ []) : tree.get? place = none := by
  cases place with
  | nil => exact absurd rfl deeper
  | cons name place =>
    cases tree with
    | folder entries => exact absurd rfl leaf
    | file bytes => rfl
    | link target => rfl

theorem look?_put_child {entries : List (Text × FileTree)} {name : Text} {child : FileTree}
    (place : Place) :
    (FileTree.folder (Keyed.put name child entries)).look? (name :: place) = child.look? place := by
  rw [look?, get?, Keyed.get?_put_self]
  rfl

theorem look?_put_other {entries : List (Text × FileTree)} {name other : Text} {child : FileTree}
    (ne : other ≠ name) (place : Place) :
    (FileTree.folder (Keyed.put name child entries)).look? (other :: place) =
      (FileTree.folder entries).look? (other :: place) := by
  rw [look?, look?, get?, get?, Keyed.get?_put_of_ne ne]

theorem look?_put {root : FileTree} {parent : Place} {entries : List (Text × FileTree)}
    {name : Text} (folder : root.get? parent = some (.folder entries))
    (leaf : ¬(Keyed.get? name entries).any isFolder) (bytes : Bytes) (place : Place) :
    (root.put (parent ++ [name]) (.file bytes)).look? place =
      if place = parent ++ [name] then some (.file bytes) else root.look? place := by
  induction parent generalizing root place with
  | nil =>
    cases folder
    cases place with
    | nil => rfl
    | cons first below =>
      rw [List.nil_append, put]
      by_cases here : first = name
      · subst here
        rw [look?_put_child, put]
        by_cases deeper : below = []
        · subst deeper
          rw [if_pos rfl]
          rfl
        · have before : (FileTree.folder entries).look? (first :: below) = none := by
            cases found : Keyed.get? first entries with
            | none => simp [look?, get?, found]
            | some old =>
              rw [found] at leaf
              simp [look?, get?, found, get?_of_not_isFolder leaf deeper]
          rw [if_neg (by simpa using deeper), before, look?,
            get?_of_not_isFolder (by simp [isFolder]) deeper]
          rfl
      · rw [look?_put_other here, if_neg (by simp [here])]
  | cons dir parent ih =>
    cases root with
    | file old => cases folder
    | link target => cases folder
    | folder siblings =>
      obtain ⟨child, found, inside⟩ := Option.bind_eq_some_iff.mp folder
      cases place with
      | nil => rfl
      | cons first below =>
        rw [List.cons_append, put, found, Option.getD_some]
        by_cases here : first = dir
        · subst here
          have before : (FileTree.folder siblings).look? (first :: below) = child.look? below := by
            rw [look?, get?, found]
            rfl
          rw [look?_put_child, ih inside, before]
          simp
        · rw [look?_put_other here, if_neg (by simp [here])]

end Pagecraft.FileTree
