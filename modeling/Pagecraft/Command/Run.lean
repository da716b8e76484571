import Pagecraft.Command.Arguments
import Pagecraft.Command.Project
import Pagecraft.Bundle.Archive
import Pagecraft.Export.Page
import Pagecraft.Source.Root

/-! Running a command. A command prints one JSON text; rendering and packing also write one file,
and they do so last, when nothing but the writing can fail. -/
namespace Pagecraft

/-- What a command needs of the world around it. -/
structure Host (m : Type → Type) where
  files : Files m
  transport : Transport m
  stamp : m Stamp

inductive Product where
  | page (html : Text)
  | archive (entries : List Bundle.Entry)

def Product.bytes : Product → Bytes
  | .page html => html.utf8
  | .archive entries => Bundle.Archive.bytes entries

structure Ended where
  status : Nat
  output : Text
  written : Option (Text × Product)

namespace Ended

def success (value : Json) (written : Option (Text × Product)) : Ended :=
  ⟨0, value.pretty 0 ++ ['\n'], written⟩

def failed (status : Nat) (message : Text) : Ended :=
  let value : Json := .record [("error", .string message), ("success", .bool false)]
  ⟨status, value.compact ++ ['\n'], none⟩

def failure (failure : Failure) : Ended := failed 1 failure.message

def exportFailure (e : ExportError) : Ended := failed 2 e.message

def usageError : Ended := ⟨2, [], none⟩

def help : Ended := ⟨0, [], none⟩

end Ended

namespace Host

variable [Monad m] (host : Host m)

def scaffold (source : Source m) (name : Text) : m Ended := do
  let content ← source.content
  let stamp ← host.stamp
  let page := SavedPage.fresh stamp.id stamp.time name (content.toOption.getD Node.starter)
  return .success page.toJson none

/-- Content that is not valid is a failure, but its verdict is printed all the same. -/
def validate (content : Text) : m Ended := do
  match ← Project.load host.files content with
  | .error e => return .failure e
  | .ok project =>
    let verdict := Review.review project.content
    let ended := Ended.success verdict.toJson none
    return if verdict.valid then ended else { ended with status := 2 }

def project (settings : Settings) (content : Text) : m (Except Failure Project) := do
  match ← Project.load host.files content with
  | .error e => return .error e
  | .ok project => project.addUploads host.files settings.uploads

def assets (settings : Settings) (content : Text) : m Ended := do
  match ← host.project settings content with
  | .error e => return .failure e
  | .ok project =>
    let missing := project.library.missingPaths project.content
    return .success (.record [("static", .strings missing),
      ("total", .ofNat (project.library.size + missing.length)),
      ("uploaded", .strings project.library.paths)]) none

def deliver (out : Text) (product : Product) (report : Report) : m Ended := do
  match ← host.files.write out product.bytes with
  | .error fault => return .failure (.unwritten out fault)
  | .ok () =>
    let value : Json := .record [("success", .bool true), ("output", .string out),
      ("report", report.toJson)]
    return .success value.canonical (some (out, product))

def render (source : Source m) (settings : Settings) (content out : Text) : m Ended := do
  match ← host.project settings content with
  | .error e => return .failure e
  | .ok project =>
    match ← Export.page source (← host.stamp) project.content project.library with
    | .error e => return .exportFailure e
    | .ok exported => host.deliver out (.page exported.product) exported.report

/-- A bundle without assets is refused before anything is fetched. -/
def bundle (source : Source m) (settings : Settings) (content : Text) (name out : Option Text) :
    m Ended := do
  match ← host.project settings content with
  | .error e => return .failure e
  | .ok project =>
    if project.library.size + (project.library.missingPaths project.content).length = 0 then
      return .failure .nothingToPack
    let base := Bundle.baseName (name.getD project.name)
    let out := out.getD (base ++ ".zip".toList)
    match ← Export.bundle source (← host.stamp) project.content project.library base with
    | .error e => return .exportFailure e
    | .ok exported => host.deliver out (.archive exported.product.entries) exported.report

def run (source : Source m) (settings : Settings) : Command → m Ended
  | .scaffold name => host.scaffold source name
  | .validate content => host.validate content
  | .assets content => host.assets settings content
  | .render content out => host.render source settings content out
  | .bundle content name out => host.bundle source settings content name out

def settings (arguments : Arguments) : m (Except Failure Settings) := do
  let settings ← match arguments.config with
    | none => pure (.ok Settings.default)
    | some path => Settings.load host.files path
  return settings.map (·.merge arguments.staticRoot arguments.uploads)

/-- Runs parsed arguments. Settings and source come first, whatever the command. -/
def runArguments (arguments : Arguments) : m Ended := do
  match ← host.settings arguments with
  | .error e => return .failure e
  | .ok settings =>
    match Source.ofRoot host.files host.transport settings.staticRoot with
    | .error e => return .failure (.source e)
    | .ok source => host.run source settings arguments.command

def runLine (line : List Text) : m Ended :=
  match Arguments.read line with
  | .help => pure .help
  | .usageError => pure .usageError
  | .run arguments => host.runArguments arguments

end Host
end Pagecraft
