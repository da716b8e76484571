import Pagecraft.Disk.Resolve

/-! The operations on files that an export needs, and what they do on a disk. -/
namespace Pagecraft

structure Files (m : Type → Type) where
  read : Text → m (Except Fault Bytes)
  isFile : Text → m Bool
  write : Text → Bytes → m (Except Fault Unit)
  /-- The regular files below a directory, by their paths from there, in order of their names
  level by level. -/
  walk : Text → m (Except WalkFault (List (Text × Bytes)))

namespace Disk

def read (disk : Disk) (path : Text) : Except Fault Bytes := do
  match disk.root.get? (← disk.resolve path) with
  | some (.file bytes) => return bytes
  | some (.folder _) => throw .isADirectory
  | _ => throw .notFound

def isFile (disk : Disk) (path : Text) : Bool :=
  match disk.read path with
  | .ok _ => true
  | .error _ => false

def write (disk : Disk) (path : Text) (bytes : Bytes) : Except Fault Disk := do
  check path
  let place ← target disk.root maxLinks (startOf disk.here path) (path.pieces '/')
  return { disk with root := disk.root.put place (.file bytes) }

/-- The node at which a walk starts. A link is followed to a directory, but a link to a file is
passed over like any other link. -/
def walkStart (disk : Disk) (path : Text) : Except Fault FileTree := do
  match disk.root.get? (← disk.resolveLink path) with
  | some (.link target) =>
    match disk.root.get? (← disk.resolve path) with
    | some (.folder entries) => return .folder entries
    | _ => return .link target
  | some tree => return tree
  | none => throw .notFound

def entryPath (path name : Text) : Text :=
  if path.getLast? = some '/' then path ++ name else path ++ '/' :: name

mutual

/-- The first fault in the walk through a tree at a path: paths grow on the way down, until they are
too long. Links are not opened. -/
def walkFault? (path : Text) : FileTree → Option WalkFault
  | .file _ => if pathLimit ≤ path.byteCount then some ⟨none, .nameTooLong⟩ else none
  | .folder entries =>
    if pathLimit ≤ path.byteCount then some ⟨some path, .nameTooLong⟩
    else entryFault? path entries
  | .link _ => none

def entryFault? (path : Text) : List (Text × FileTree) → Option WalkFault
  | [] => none
  | (name, tree) :: entries =>
    match walkFault? (entryPath path name) tree with
    | some fault => some fault
    | none => entryFault? path entries

end

def walk (disk : Disk) (path : Text) : Except WalkFault (List (Text × Bytes)) :=
  match disk.walkStart path with
  | .error fault => .error ⟨some path, fault⟩
  | .ok tree =>
    match walkFault? path tree with
    | some fault => .error fault
    | none => .ok tree.files

def files : Files (StateM Disk) where
  read path := return (← get).read path
  isFile path := return (← get).isFile path
  write path bytes := do
    match (← get).write path bytes with
    | .ok disk => set disk; return .ok ()
    | .error fault => return .error fault
  walk path := return (← get).walk path

end Disk

def Files.readText [Monad m] (files : Files m) (path : Text) : m (Except Fault Text) := do
  match ← files.read path with
  | .error fault => return .error fault
  | .ok bytes =>
    match Text.ofUtf8? bytes with
    | some text => return .ok text
    | none => return .error .notUtf8

end Pagecraft
