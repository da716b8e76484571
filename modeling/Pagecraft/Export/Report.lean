import Pagecraft.Bundle.Entry
import Pagecraft.Calendar.Instant
import Pagecraft.Json.Canonical
import Pagecraft.Review.Verdict
import Pagecraft.Source.Site
import Pagecraft.Source.Static

/-! Reports: what an export produced, from what, and what it could not resolve. -/
namespace Pagecraft

structure Stamp where
  id : Text
  time : Instant

def Json.digest (value : Json) : Text := Sha256.hex value.canonicalText.utf8

inductive Report.Mode where
  | singleFile
  | bundle
deriving DecidableEq, Repr

def Report.Mode.name : Report.Mode → Text
  | .singleFile => "single_file".toList
  | .bundle => "bundle".toList

structure Report where
  id : Text
  createdAt : Instant
  engineVersion : Text
  mode : Report.Mode
  staticRoot : Text
  documentDigest : Text
  uploadedAssets : Nat
  staticAssets : Nat
  entries : List Bundle.Entry
  unresolved : List MissingAsset
  verdict : Review.Verdict
  digest : Text

namespace Report

def toJson (report : Report) : Json :=
  .record [("id", .string report.id), ("created_at", .string report.createdAt.text),
    ("engine_version", .string report.engineVersion), ("mode", .string report.mode.name),
    ("static_root", .string report.staticRoot),
    ("document_sha256", .string report.documentDigest),
    ("uploaded_assets", .ofNat report.uploadedAssets),
    ("static_assets", .ofNat report.staticAssets),
    ("entries", .array (report.entries.map Bundle.Entry.toJson)),
    ("unresolved_assets", .array (report.unresolved.map MissingAsset.toJson)),
    ("validation", report.verdict.toJson), ("report_hash", .string report.digest)]

def unsealed (report : Report) : Report := { report with digest := [] }

/-- The report with the digest that it has without one. -/
def sealed (report : Report) : Report :=
  { report with digest := report.unsealed.toJson.digest }

end Report
end Pagecraft
