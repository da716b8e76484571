import Std.Time.DateTime.Timestamp
import Pagecraft.Calendar.Unix
import Pagecraft.Command.Run
import Pagecraft.Text.Uuid

/-! The program: the host that commands run on is the file system, the clock and the source of
random bytes of the machine. There is no network. -/
namespace Pagecraft.Main

def faultOf : IO.Error → Fault
  | .noFileOrDirectory .. | .noSuchThing .. => .notFound
  | .inappropriateType .. => .notADirectory
  | e => .other (toString e).toList

def attempt (action : IO α) : IO (Except Fault α) := do
  match ← action.toBaseIO with
  | .ok a => return .ok a
  | .error e => return .error (faultOf e)

def entryAt (path : String) : IO.FS.DirEntry := ⟨".", path⟩

def readFile (path : String) : IO (Except Fault Bytes) := do
  if path.isEmpty then return .error .notFound
  if ← (entryAt path).path.isDir then return .error .isADirectory
  return (← attempt (IO.FS.readBinFile (entryAt path).path)).map (·.toList)

def isFile (path : String) : IO Bool := do
  match ← (entryAt path).path.metadata.toBaseIO with
  | .ok metadata => return metadata.type == .file
  | .error _ => return false

partial def collect (directory : IO.FS.DirEntry) : IO FileTree := do
  let mut entries : Keyed FileTree := []
  for entry in ← directory.path.readDir do
    let tree ← match (← entry.path.symlinkMetadata).type with
      | .dir => collect entry
      | .file => pure (.file (← IO.FS.readBinFile entry.path).toList)
      | _ => pure (.link [])
    entries := Keyed.put entry.fileName.toList tree entries
  return .folder entries

def walk (path : String) : IO (Except WalkFault (List (Text × Bytes))) := do
  let unlisted (fault : Fault) : WalkFault := ⟨some path.toList, fault⟩
  if path.isEmpty then return .error (unlisted .notFound)
  let entry := entryAt path
  match ← attempt entry.path.metadata with
  | .error fault => return .error (unlisted fault)
  | .ok metadata =>
    if metadata.type == .dir then
      return ((← attempt (collect entry)).map FileTree.files).mapError unlisted
    if (← entry.path.symlinkMetadata).type == .symlink then return .ok []
    return ((← readFile path).map fun bytes => [([], bytes)]).mapError fun fault => ⟨none, fault⟩

def files : Files IO where
  read path := readFile (String.ofList path)
  isFile path := isFile (String.ofList path)
  write path bytes :=
    attempt (IO.FS.writeBinFile (entryAt (String.ofList path)).path bytes.toByteArray)
  walk path := walk (String.ofList path)

def stamp : IO Stamp := do
  let random ← IO.getRandomBytes 16
  let now ← Std.Time.Timestamp.now
  let nanos := now.toNanosecondsSinceUnixEpoch.val
  return ⟨Uuid.ofBytes random.toList,
    .ofUnix (nanos / 1000000000) (nanos % 1000000000).toNat⟩

def host : Host IO := ⟨files, .offline, stamp⟩

end Pagecraft.Main

def main (arguments : List String) : IO UInt32 := do
  let line := arguments.map String.toList
  let usage := String.ofList Pagecraft.Arguments.usage
  match Pagecraft.Arguments.read line with
  | .help => IO.print usage
  | .usageError => IO.eprint usage
  | .run _ => pure ()
  let ended ← Pagecraft.Main.host.runLine line
  IO.print (String.ofList ended.output)
  return ended.status.toUInt32
