import Pagecraft.Bundle.Package
import Pagecraft.Export.Report
import Pagecraft.Review.Rule

/-! Exports: a page as a single file with all its assets inline, or as a bundle. The template
comes first, because nothing can be done without it; then the assets that were not uploaded are
fetched. -/
namespace Pagecraft

inductive ExportError where
  | template (cause : SourceError)
  | archive (cause : Bundle.Error)

def ExportError.message : ExportError → Text
  | .template cause => "Failed to load template document: ".toList ++ cause.message
  | .archive cause => "Archive construction failed: ".toList ++ cause.message

/-- The assets of an export: the uploads, and what could be fetched besides them. -/
structure Gathered where
  library : Asset.Library
  uploaded : Nat
  fetched : Nat
  missing : List MissingAsset

structure Exported (α : Type) where
  product : α
  report : Report

namespace Export

/-- Uploads take precedence over what is fetched. -/
def gather [Monad m] (source : Source m) (content : Node) (uploads : Asset.Library) :
    m Gathered := do
  let (fetched, missing) ← source.fetchAssets (uploads.missingPaths content)
  return ⟨uploads.extend fetched, uploads.size, fetched.length, missing⟩

def report (root : Text) (stamp : Stamp) (mode : Report.Mode) (content : Node) (document : Text)
    (entries : List Bundle.Entry) (gathered : Gathered) : Report :=
  Report.sealed {
    id := stamp.id
    createdAt := stamp.time
    engineVersion := engineVersion
    mode := mode
    staticRoot := root
    documentDigest := Sha256.hex document.utf8
    uploadedAssets := gathered.uploaded
    staticAssets := gathered.fetched
    entries := entries
    unresolved := gathered.missing
    verdict := Review.review content
    digest := [] }

def pageOf (root : Text) (stamp : Stamp) (content : Node) (template : Text) (gathered : Gathered) :
    Exported Text :=
  let html := Template.render template (gathered.library.resolve content)
  ⟨html, report root stamp .singleFile content html [] gathered⟩

def bundleOf (root : Text) (stamp : Stamp) (content : Node) (template : Text) (gathered : Gathered)
    (base : Text) : Except ExportError (Exported Bundle) := do
  let bundle ← (Bundle.package content template gathered.library base).mapError .archive
  return ⟨bundle, report root stamp .bundle content bundle.document bundle.entries gathered⟩

def page [Monad m] (source : Source m) (stamp : Stamp) (content : Node) (uploads : Asset.Library) :
    m (Except ExportError (Exported Text)) := do
  match ← source.template with
  | .error cause => return .error (.template cause)
  | .ok template =>
    let gathered ← gather source content uploads
    return .ok (pageOf source.root stamp content template gathered)

def bundle [Monad m] (source : Source m) (stamp : Stamp) (content : Node)
    (uploads : Asset.Library) (base : Text) : m (Except ExportError (Exported Bundle)) := do
  match ← source.template with
  | .error cause => return .error (.template cause)
  | .ok template =>
    let gathered ← gather source content uploads
    return bundleOf source.root stamp content template gathered base

end Export
end Pagecraft
