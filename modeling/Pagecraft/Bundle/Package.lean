import Pagecraft.Asset.Resolution
import Pagecraft.Bundle.Entry
import Pagecraft.Template.Render

/-! A bundle: the page with its assets inline, and next to it the same assets as files in their
directories. -/
namespace Pagecraft

/-- The page and the entries of the archive: the document, the directories from `assets/` on,
and the assets, directories and assets each in order of their paths. -/
structure Bundle where
  document : Text
  entries : List Bundle.Entry
deriving DecidableEq, Repr

namespace Bundle

/-- A base name is one segment of a path other than the parent. -/
def isBaseName (base : Text) : Bool :=
  !base.isEmpty && !base.contains '/' && !base.contains '\\' && base ≠ ['.', '.']

/-- The data of a page in which all assets are inline, and the paths of those that the library
lacks are relative to the page. -/
def pageData (library : Asset.Library) (tree : Node) : Node :=
  Asset.relativize (library.resolve tree)

def payload (table : Keyed Text) (record : Asset.Record) : Except Error Bytes :=
  match Keyed.get? record.path table with
  | some uri => (DataUri.decode uri).mapError (Error.undecodable record.path)
  | none => .error (.missingPayload record.path)

def addFile (table : Keyed Text) (files : Keyed Bytes) (record : Asset.Record) :
    Except Error (Keyed Bytes) := do
  let path ← entryPath record
  let bytes ← payload table record
  if Keyed.hasKey path files then throw (.duplicateEntry path)
  else return Keyed.put path bytes files

/-- The files of a library by their entry paths. They hold what is inline in the page. -/
def files (library : Asset.Library) : Except Error (Keyed Bytes) :=
  library.records.foldlM (addFile library.inlineTable) []

/-- What stands before and with each slash of a path. -/
def ancestors : Text → List Text
  | [] => []
  | c :: path => (if c = '/' then [[c]] else []) ++ (ancestors path).map (c :: ·)

def directories (files : Keyed Bytes) : List Text :=
  let found := assetsDirectory :: files.keys.flatMap ancestors
  (Keyed.ofList (found.map fun path => (path, ()))).keys

def layout (base document : Text) (files : Keyed Bytes) : List Entry :=
  ⟨base ++ ".html".toList, .document, document.utf8⟩ ::
    (directories files).map (fun path => ⟨path, .directory, []⟩) ++
      files.map fun (path, bytes) => ⟨path, .asset, bytes⟩

end Bundle

def Bundle.package (tree : Node) (template : Text) (library : Asset.Library) (base : Text) :
    Except Bundle.Error Bundle :=
  if Bundle.isBaseName base then do
    let document := Template.render template (Bundle.pageData library tree)
    return ⟨document, Bundle.layout base document (← Bundle.files library)⟩
  else .error (.unsafePath base)

end Pagecraft
