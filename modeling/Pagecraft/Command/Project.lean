import Pagecraft.Disk.Files
import Pagecraft.Page.Saved
import Pagecraft.Page.Settings
import Pagecraft.Source.Basic

/-! What a command works on: the content in a file, a saved page or a bare tree, and settings
and uploads. -/
namespace Pagecraft

structure Project where
  name : Text
  content : Node
  library : Asset.Library

/-- The last name of a path without its extension; a name that only begins with a dot has none. -/
def stem (path : Text) : Text :=
  let name := path.lastPiece '/'
  match Text.cutLast? '.' name with
  | some (c :: before, _) => c :: before
  | _ => name

namespace Project

def ofSavedPage (page : SavedPage) : Project := ⟨page.exportName, page.data, page.library⟩

/-- The project in the text of a file. What is no saved page is content as a whole. -/
def ofText? (path text : Text) : Option Project :=
  match SavedPage.ofText? text with
  | some page => some (ofSavedPage page)
  | none => (Node.ofText? text).map fun content => ⟨stem path, content, .empty⟩

def withUploads (project : Project) (uploads : List (Text × Bytes)) : Project :=
  { project with library := project.library.extend (Asset.Record.ofUploads uploads) }

end Project

inductive Failure where
  | settingsUnread (path : Text) (fault : Fault)
  | settingsInvalid
  | source (cause : SourceError)
  | contentUnread (path : Text) (fault : Fault)
  | contentInvalid (path : Text)
  | uploadsUnread (path : Text) (fault : WalkFault)
  | nothingToPack
  | unwritten (path : Text) (fault : Fault)

def Failure.message : Failure → Text
  | .settingsUnread path fault =>
    "Failed to read config ".toList ++ path ++ ": ".toList ++ fault.message
  | .settingsInvalid => "Invalid config: not a record of settings".toList
  | .source cause => cause.message
  | .contentUnread path fault => "Failed to read ".toList ++ path ++ ": ".toList ++ fault.message
  | .contentInvalid path => "Invalid content ".toList ++ path ++ ": not a JSON text".toList
  | .uploadsUnread path fault =>
    "Failed to read uploads ".toList ++ path ++ ": ".toList ++ fault.message
  | .nothingToPack => "No assets to export. Use render for pages without assets.".toList
  | .unwritten path fault => "Failed to write ".toList ++ path ++ ": ".toList ++ fault.message

def Settings.load [Monad m] (files : Files m) (path : Text) : m (Except Failure Settings) := do
  match ← files.readText path with
  | .error fault => return .error (.settingsUnread path fault)
  | .ok text =>
    match Settings.ofText? text with
    | some settings => return .ok settings
    | none => return .error .settingsInvalid

def Project.load [Monad m] (files : Files m) (path : Text) : m (Except Failure Project) := do
  match ← files.readText path with
  | .error fault => return .error (.contentUnread path fault)
  | .ok text =>
    match Project.ofText? path text with
    | some project => return .ok project
    | none => return .error (.contentInvalid path)

def Project.addUploads [Monad m] (files : Files m) (project : Project) (directory : Option Text) :
    m (Except Failure Project) := do
  match directory with
  | none => return .ok project
  | some path =>
    match ← files.walk path with
    | .error fault => return .error (.uploadsUnread path fault)
    | .ok uploads => return .ok (project.withUploads uploads)

end Pagecraft
