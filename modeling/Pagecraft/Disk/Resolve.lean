import Pagecraft.Disk.Fault
import Pagecraft.Disk.FileTree
import Pagecraft.Text.Utf8

/-! How paths are resolved: name by name from the working directory or the root, following
links, of which there may be at most forty on the way. -/
namespace Pagecraft

structure Disk where
  root : FileTree
  here : Place

namespace Disk

def maxLinks : Nat := 40

def maxName : Nat := 255

/-- The length that paths stay below, in bytes. -/
def pathLimit : Nat := 4096

def startOf (place : Place) : Text → Place
  | '/' :: _ => []
  | _ => place

def entry? (root : FileTree) (place : Place) (name : Text) : Except Fault (Option FileTree) :=
  match root.get? place with
  | some (.folder entries) =>
    if maxName < name.byteCount then .error .nameTooLong else .ok (Keyed.get? name entries)
  | _ => .error .notADirectory

def staysAt (segment : Text) : Bool := segment.isEmpty || segment = ['.']

def isParent (segment : Text) : Bool := segment = ['.', '.']

/-- The place at which the segments of a path end, all links followed, and how many more links may
be followed after them. -/
def follow (root : FileTree) (links : Nat) (place : Place) :
    List Text → Except Fault (Place × Nat)
  | [] => .ok (place, links)
  | segment :: rest =>
    if staysAt segment || isParent segment then
      if (root.get? place).any FileTree.isFolder then
        follow root links (if staysAt segment then place else place.dropLast) rest
      else .error .notADirectory
    else
      match entry? root place segment with
      | .error fault => .error fault
      | .ok none => .error .notFound
      | .ok (some (.link target)) =>
        match links with
        | 0 => .error .tooManyLinks
        | links + 1 => follow root links (startOf place target) (target.pieces '/' ++ rest)
      | .ok (some _) => follow root links (place ++ [segment]) rest
termination_by segments => (links, segments.length)

theorem links_le_of_follow {root : FileTree} {links left : Nat} {place found : Place}
    {segments : List Text} (h : follow root links place segments = .ok (found, left)) :
    left ≤ links := by
  fun_induction follow root links place segments <;> grind

def check (path : Text) : Except Fault Unit :=
  if path.contains '\x00' then .error .nulInName
  else if path.isEmpty then .error .notFound
  else if pathLimit ≤ path.byteCount then .error .nameTooLong
  else .ok ()

def resolve (disk : Disk) (path : Text) : Except Fault Place := do
  check path
  return (← follow disk.root maxLinks (startOf disk.here path) (path.pieces '/')).1

/-- The place of an existing node; a link at the end of the path is not followed. -/
def resolveLink (disk : Disk) (path : Text) : Except Fault Place := do
  check path
  let segments := path.pieces '/'
  let last := segments.getLastD []
  if staysAt last || isParent last then disk.resolve path
  else
    let (place, _) ← follow disk.root maxLinks (startOf disk.here path) segments.dropLast
    match ← entry? disk.root place last with
    | none => throw .notFound
    | some _ => return place ++ [last]

/-- The place of the file that writing to the segments of a path replaces or makes. A path that
ends in a slash or in dots can only be that of a directory. -/
def target (root : FileTree) (links : Nat) (place : Place) (segments : List Text) :
    Except Fault Place :=
  let named := (segments.reverse.dropWhile List.isEmpty).reverse
  let last := named.getLastD []
  match h : follow root links place named.dropLast with
  | .error fault => .error fault
  | .ok (parent, left) =>
    if (root.get? parent).any FileTree.isFolder then
      if named.length < segments.length || staysAt last || isParent last then .error .isADirectory
      else
        match entry? root parent last with
        | .error fault => .error fault
        | .ok (some (.folder _)) => .error .isADirectory
        | .ok (some (.link path)) =>
          match left, links_le_of_follow h with
          | 0, _ => .error .tooManyLinks
          | left + 1, _ => target root left (startOf parent path) (path.pieces '/')
        | .ok _ => .ok (parent ++ [last])
    else .error .notADirectory
termination_by links

end Disk
end Pagecraft
