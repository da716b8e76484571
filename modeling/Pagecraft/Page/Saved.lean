import Pagecraft.Asset.Library
import Pagecraft.Bundle.Name
import Pagecraft.Calendar.Instant
import Pagecraft.Content.Node
import Pagecraft.Page.Starter

/-! Saved pages: the content of a page with a name, its times, and the assets uploaded for it. -/
namespace Pagecraft

structure SavedPage where
  id : Text
  name : Text
  description : Text
  created : Instant
  modified : Instant
  data : Node
  assets : List Asset.Record

namespace SavedPage

def defaultName : Text := "New Template".toList

def fresh (id : Text) (now : Instant) (name : Text) (data : Node) : SavedPage :=
  ⟨id, name, [], now, now, data, []⟩

def exportName (page : SavedPage) : Text := Bundle.baseName page.name

def library (page : SavedPage) : Asset.Library := .ofList page.assets

def toJson (page : SavedPage) : Json :=
  .record [("id", .string page.id), ("name", .string page.name),
    ("description", .string page.description), ("created", .string page.created.text),
    ("modified", .string page.modified.text), ("data", page.data.toJson),
    ("assets", .array (page.assets.map Asset.Record.toJson))]

def fieldNames : List Text :=
  ["id", "name", "description", "created", "modified", "data", "assets"].map String.toList

/-- Description and assets may be left out. The record itself is one level of nesting. -/
def ofWritten? (written : Json.Written) : Option SavedPage := do
  match ← written.fields? fieldNames with
  | [some id, some name, description, some created, some modified, some data, assets] =>
    return {
      id := ← id.text?
      name := ← name.text?
      description := ← Json.Written.orElse (·.text?) [] description
      created := ← Instant.ofText? (← created.text?)
      modified := ← Instant.ofText? (← modified.text?)
      data := .ofJson (← Json.ofWritten? (Json.maxDepth - 1) data)
      assets := ← Json.Written.orElse (Json.Written.list? Asset.Record.ofWritten?) [] assets }
  | _ => none

def ofText? (t : Text) : Option SavedPage := (Json.Written.ofText? t).bind ofWritten?

end SavedPage
end Pagecraft
