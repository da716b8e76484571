import Pagecraft.Json.Fields
import Pagecraft.Json.Basic

/-! Settings of an export, as a JSON file holds them. -/
namespace Pagecraft

structure Settings where
  /-- A directory or an address that holds the template and the static assets. -/
  staticRoot : Text
  uploads : Option Text
  logFilter : Text
deriving DecidableEq, Repr

namespace Settings

def default : Settings := ⟨"public".toList, none, "warn".toList⟩

/-- Values given elsewhere replace those of the settings. -/
def merge (settings : Settings) (staticRoot uploads : Option Text) : Settings :=
  { settings with
    staticRoot := staticRoot.getD settings.staticRoot
    uploads := uploads.or settings.uploads }

def toJson (settings : Settings) : Json :=
  .record [("staticRoot", .string settings.staticRoot),
    ("uploadsDir", .nullable .string settings.uploads),
    ("logFilter", .string settings.logFilter)]

def fieldNames : List Text := ["staticRoot", "uploadsDir", "logFilter"].map String.toList

def ofWritten? (written : Json.Written) : Option Settings := do
  match ← written.fields? fieldNames with
  | [staticRoot, uploads, logFilter] =>
    return ⟨← Json.Written.orElse (·.text?) default.staticRoot staticRoot,
      ← Json.Written.orElse (·.textOrNull?) default.uploads uploads,
      ← Json.Written.orElse (·.text?) default.logFilter logFilter⟩
  | _ => none

def ofText? (t : Text) : Option Settings := (Json.Written.ofText? t).bind ofWritten?

end Settings
end Pagecraft
