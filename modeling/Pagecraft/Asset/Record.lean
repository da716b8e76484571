import Pagecraft.Asset.DataUri
import Pagecraft.Asset.MediaType
import Pagecraft.Asset.Path
import Pagecraft.Json.Fields

/-! A binary file together with the path by which content refers to it. -/
namespace Pagecraft.Asset

/-- The size is a field of its own, because saved records state it and it is kept as stated. -/
structure Record where
  name : Text
  path : Text
  mediaType : Text
  bytes : Bytes
  size : UInt64
deriving DecidableEq, Repr

namespace Record

def ofBytes (name path mediaType : Text) (bytes : Bytes) : Record :=
  ⟨name, path, mediaType, bytes, UInt64.ofNat bytes.length⟩

/-- The record of an uploaded file. Its path is its place below the upload directory, with
backslashes turned and leading slashes dropped, under the mark of asset paths. -/
def ofUpload (place : Text) (bytes : Bytes) : Record :=
  let place := Text.swap '\\' '/' (place.dropWhile (· == '/'))
  let path := pathMark ++ place
  ofBytes (place.lastPiece '/') path (MediaType.ofPath path) bytes

/-- The records of the files below an upload directory. Backslashes count as slashes from the
start. -/
def ofUploads (files : List (Text × Bytes)) : List Record :=
  files.map fun (place, bytes) => ofUpload (Text.swap '\\' '/' place) bytes

def dataUri (record : Record) : Text := DataUri.encode record.mediaType record.bytes

def toJson (record : Record) : Json :=
  .record [("name", .string record.name), ("path", .string record.path),
    ("mimeType", .string record.mediaType), ("bytes", .string (Base64.encode record.bytes)),
    ("sizeBytes", .ofNat record.size.toNat)]

def fieldNames : List Text :=
  ["name", "path", "mimeType", "bytes", "sizeBytes"].map String.toList

def ofWritten? (written : Json.Written) : Option Record := do
  match ← written.fields? fieldNames with
  | [some name, some path, some mediaType, some payload, some size] =>
    let name ← name.text?
    let path ← path.text?
    let mediaType ← mediaType.text?
    let bytes ← (Base64.decode (← payload.text?)).toOption
    let size ← size.word64?
    return ⟨name, path, mediaType, bytes, size⟩
  | _ => none

def ofText? (t : Text) : Option Record := (Json.Written.ofText? t).bind ofWritten?

end Pagecraft.Asset.Record
