import Pagecraft.Disk.Files
import Pagecraft.Source.Basic

/-! A source in a directory. -/
namespace Pagecraft.Source

def below (root path : Text) : Text :=
  if root.isEmpty || root.getLast? = some '/' then root ++ path else root ++ '/' :: path

/-- Fetches regular files only. A root with a segment that is the parent serves no file. -/
def fetchFile [Monad m] (files : Files m) (root path : Text) :
    m (Except SourceError Fetched) := do
  let whole := below root path
  if !isInside path || (whole.pieces '/').contains ['.', '.'] then
    return .error (.invalidPath path)
  if ← files.isFile whole then
    match ← files.read whole with
    | .ok bytes => return .ok ⟨bytes, none⟩
    | .error fault => return .error (.disk fault)
  else return .error (.notFound whole)

def directory [Monad m] (files : Files m) (root : Text) : Source m := ⟨root, fetchFile files root⟩

end Pagecraft.Source
