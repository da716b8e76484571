import Pagecraft.Text.Keyed

/-! A tree of files, folders and symbolic links. -/
namespace Pagecraft

inductive FileTree where
  | file (bytes : Bytes)
  | folder (entries : List (Text × FileTree))
  | link (target : Text)
deriving Repr

/-- A place in a tree: the names from the root to it. -/
abbrev Place := List Text

namespace FileTree

def isFolder : FileTree → Bool
  | .folder _ => true
  | _ => false

/-- What stands at a place; links on the way are not followed. -/
def get? : Place → FileTree → Option FileTree
  | [], tree => some tree
  | name :: place, .folder entries => (Keyed.get? name entries).bind (get? place)
  | _ :: _, _ => none

def put : FileTree → Place → FileTree → FileTree
  | _, [], new => new
  | .folder entries, name :: place, new =>
    let child := (Keyed.get? name entries).getD (.folder [])
    .folder (Keyed.put name (put child place new) entries)
  | tree, _ :: _, _ => tree

mutual

/-- The regular files of a tree in the order of a walk, each with its path from the root of the
walk. Links are passed over. -/
def files : FileTree → List (Text × Bytes)
  | .file bytes => [([], bytes)]
  | .folder entries => filesOfEntries entries
  | .link _ => []

def filesOfEntries : List (Text × FileTree) → List (Text × Bytes)
  | [] => []
  | (name, tree) :: entries =>
    (files tree).map (fun (path, bytes) =>
      (if path.isEmpty then name else name ++ '/' :: path, bytes))
      ++ filesOfEntries entries

end

end FileTree
end Pagecraft
