import Pagecraft.Asset.Record
import Pagecraft.Digest.Sha256

/-! The entries of a bundle: where they lie, what they hold, and why there may be none. -/
namespace Pagecraft.Bundle

inductive Error where
  | unsafePath (path : Text)
  | duplicateEntry (path : Text)
  | undecodable (path : Text) (cause : DataUri.Error)
  | missingPayload (path : Text)
deriving DecidableEq, Repr

def Error.message : Error → Text
  | .unsafePath path => "Unsafe archive path: ".toList ++ path
  | .duplicateEntry path => "Duplicate archive entry: ".toList ++ path
  | .undecodable path cause =>
    "Asset ".toList ++ path ++ " has an undecodable payload: ".toList ++ cause.message
  | .missingPayload path => "Asset ".toList ++ path ++ " missing from the inline table".toList

inductive Kind where
  | document
  | directory
  | asset
deriving DecidableEq, Repr

def Kind.name : Kind → Text
  | .document => "document".toList
  | .directory => "directory".toList
  | .asset => "asset".toList

structure Entry where
  path : Text
  kind : Kind
  bytes : Bytes
deriving DecidableEq, Repr

namespace Entry

def size (entry : Entry) : Nat := entry.bytes.length

def digest (entry : Entry) : Text :=
  match entry.kind with
  | .directory => []
  | .document | .asset => Sha256.hex entry.bytes

def toJson (entry : Entry) : Json :=
  .record [("path", .string entry.path), ("kind", .string entry.kind.name),
    ("size_bytes", .ofNat entry.size), ("sha256", .string entry.digest)]

end Entry

def assetsDirectory : Text := "assets/".toList

def isSafeSegment (segment : Text) : Bool :=
  !segment.isEmpty && segment ≠ ['.'] && segment ≠ ['.', '.']

/-- Whether a relative path stays below where it starts, on any system. -/
def isSafe (path : Text) : Bool := !path.contains '\\' && (path.pieces '/').all isSafeSegment

/-- Where an asset lies in a bundle. One whose path is no asset path goes by its name. -/
def entryPath (record : Asset.Record) : Except Error Text :=
  let sub := (Text.dropMark? Asset.pathMark record.path).getD record.name
  if isSafe sub then .ok (assetsDirectory ++ sub) else .error (.unsafePath record.path)

end Pagecraft.Bundle
