import Pagecraft.Bundle.Entry
import Pagecraft.Digest.Crc32

/-! Entries as a ZIP archive. All entries bear the earliest time that the format knows, so that
equal entries give equal archives. -/
namespace Pagecraft.Bundle

inductive Method where
  | stored
  | deflated
deriving DecidableEq, Repr

/-- Files are deflated; directories, which hold nothing, are stored. -/
def Kind.method : Kind → Method
  | .directory => .stored
  | .document | .asset => .deflated

def Kind.mode : Kind → Nat
  | .directory => 0o40755
  | .document | .asset => 0o100644

namespace Archive

/-- The lowest `count` bytes of a number, the lowest first. -/
def little : Nat → Nat → Bytes
  | 0, _ => []
  | count + 1, n => UInt8.ofNat n :: little count (n / 256)

def stamp : Bytes := little 2 0 ++ little 2 0x21

def Method.code : Method → Nat
  | .stored => 0
  | .deflated => 8

def block (final : Bool) (bytes : Bytes) : Bytes :=
  (if final then 1 else 0) :: little 2 bytes.length ++ little 2 (0xffff - bytes.length) ++ bytes

/-- A deflate stream of blocks that are kept as they are; the first argument counts those that
are full and are followed by another. -/
def deflate : Nat → Bytes → Bytes
  | 0, bytes => block true bytes
  | full + 1, bytes => block false (bytes.take 0xffff) ++ deflate full (bytes.drop 0xffff)

def held (entry : Entry) : Bytes :=
  match entry.kind.method with
  | .stored => entry.bytes
  | .deflated => deflate ((entry.bytes.length - 1) / 0xffff) entry.bytes

/-- A flag tells that a name with other than ASCII characters is in UTF-8. -/
def flags (entry : Entry) : Nat := if entry.path.all (·.toNat < 0x80) then 0 else 0x800

def description (entry : Entry) : Bytes :=
  little 2 20 ++ little 2 (flags entry) ++ little 2 (Method.code entry.kind.method) ++ stamp ++
    little 4 (Crc32.checksum entry.bytes).toNat ++ little 4 (held entry).length ++
    little 4 entry.bytes.length ++ little 2 entry.path.byteCount ++ little 2 0

def item (entry : Entry) : Bytes :=
  little 4 0x04034b50 ++ description entry ++ entry.path.utf8 ++ held entry

def line (entry : Entry) (offset : Nat) : Bytes :=
  little 4 0x02014b50 ++ little 2 (3 * 256 + 20) ++ description entry ++ little 6 0 ++
    little 4 (entry.kind.mode * 0x10000) ++ little 4 offset ++ entry.path.utf8

def directory : Nat → List Entry → Bytes
  | _, [] => []
  | offset, entry :: entries =>
    line entry offset ++ directory (offset + (item entry).length) entries

def bytes (entries : List Entry) : Bytes :=
  let items := entries.flatMap item
  let lines := directory 0 entries
  items ++ lines ++ little 4 0x06054b50 ++ little 4 0 ++ little 2 entries.length ++
    little 2 entries.length ++ little 4 lines.length ++ little 4 items.length ++ little 2 0

end Archive
end Pagecraft.Bundle
