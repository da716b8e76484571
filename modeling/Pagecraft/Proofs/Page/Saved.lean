import Pagecraft.Command.Project
import Pagecraft.Proofs.Asset.Library
import Pagecraft.Proofs.Calendar.Instant
import Pagecraft.Proofs.Content.Sorted
import Pagecraft.Proofs.Disk.Writing
import Pagecraft.Proofs.Json.Fields
import Pagecraft.Proofs.Source.Tracing
import Pagecraft.Proofs.Text.Base64

/-! Saved pages come back: the text of a page, compact or with one member per line, is read as the
page, and a file with that text is a project with its content, its name and its assets. -/
namespace Pagecraft

/-! Assets -/

namespace Asset.Record

theorem integral_toJson (record : Record) : record.toJson.Integral := by
  have small := record.size.toNat_lt
  have word : (Json.Number.integer record.size.toNat).IsWord := by
    constructor <;> omega
  simp [toJson, Json.record, Json.ofNat, word]

theorem ofWritten?_written (record : Record) : ofWritten? record.toJson.written = some record := by
  have fields : record.toJson.written.fields? fieldNames =
      some [some (Json.string record.name).written, some (Json.string record.path).written,
        some (Json.string record.mediaType).written,
        some (Json.string (Base64.encode record.bytes)).written,
        some (Json.ofNat record.size.toNat).written] :=
    Json.Written.fields?_written (by simp)
  rw [ofWritten?, fields]
  simp only [Option.bind_eq_bind, Option.bind_some, Json.Written.text?_written,
    Json.Written.word64?_written, Base64.decode_encode]
  rfl

end Asset.Record

namespace SavedPage

/-- What a page may hold for its text to be read: numbers of at most 64 bits, a tree that is nested
126 deep at most, since the page is a level of its own, and years of four digits. -/
structure IsStorable (page : SavedPage) : Prop where
  sorted : page.data.Sorted
  integral : page.data.toJson.Integral
  shallow : page.data.toJson.depth ≤ 126
  created : page.created.IsCommon
  modified : page.modified.IsCommon

theorem IsStorable.integral_toJson {page : SavedPage} (storable : page.IsStorable) :
    page.toJson.Integral := by
  simp [toJson, Json.record, storable.integral, Asset.Record.integral_toJson]

theorem ofWritten?_written {page : SavedPage} (storable : page.IsStorable) :
    ofWritten? page.toJson.written = some page := by
  have fields : page.toJson.written.fields? fieldNames =
      some [some (Json.string page.id).written, some (Json.string page.name).written,
        some (Json.string page.description).written, some (Json.string page.created.text).written,
        some (Json.string page.modified.text).written, some page.data.toJson.written,
        some (Json.array (page.assets.map Asset.Record.toJson)).written] :=
    Json.Written.fields?_written (by simp)
  have data : Json.ofWritten? (Json.maxDepth - 1) page.data.toJson.written =
      some page.data.toJson :=
    Json.ofWritten?_written storable.integral storable.shallow
  have assets : Json.Written.list? Asset.Record.ofWritten?
      (Json.array (page.assets.map Asset.Record.toJson)).written = some page.assets :=
    Json.Written.list?_written Asset.Record.ofWritten?_written page.assets
  rw [ofWritten?, fields]
  simp only [Option.bind_eq_bind, Option.bind_some, Json.Written.text?_written,
    Json.Written.orElse, Instant.ofText?_text storable.created,
    Instant.ofText?_text storable.modified, data, assets, Node.ofJson_toJson storable.sorted]
  rfl

theorem ofText?_spaced {page : SavedPage} (storable : page.IsStorable) (s : Json.Spacing)
    (level : Nat) : ofText? (Json.spaced s level page.toJson) = some page := by
  rw [ofText?, Json.Written.ofText?_spaced s level storable.integral_toJson, Option.bind_some,
    ofWritten?_written storable]

def texts (page : SavedPage) : List Text := [page.toJson.compact, page.toJson.pretty 0]

theorem ofText?_of_mem_texts {page : SavedPage} (storable : page.IsStorable) {text : Text}
    (mem : text ∈ page.texts) : ofText? text = some page := by
  rcases List.mem_pair.mp mem with rfl | rfl
  · rw [Json.compact_eq 0]
    exact ofText?_spaced storable .none 0
  · rw [Json.pretty_eq]
    exact ofText?_spaced storable .lines 0

end SavedPage

/-! Files -/

theorem Disk.run_readText {disk : Disk} {path text : Text} (read : disk.read path = .ok text.utf8) :
    (Disk.files.readText path).run disk = (.ok text, disk) := by
  have answer : (Disk.files.read path).run disk = (.ok text.utf8, disk) :=
    Prod.ext read rfl
  rw [Files.readText, run_bind_of_run_eq answer]
  dsimp only
  rw [Text.ofUtf8?_utf8]
  rfl

theorem Project.run_load {disk : Disk} {path text : Text} {project : Project}
    (read : disk.read path = .ok text.utf8) (made : Project.ofText? path text = some project) :
    (Project.load Disk.files path).run disk = (.ok project, disk) := by
  rw [Project.load, run_bind_of_run_eq (Disk.run_readText read)]
  dsimp only
  rw [made]
  rfl

namespace SavedPage

/-- A page that was saved is the page that is read, with its assets byte for byte. Of two assets
with one path the first is the one that counts, as it was before. -/
theorem round_trip {page : SavedPage} (storable : page.IsStorable) {text : Text}
    (mem : text ∈ page.texts) :
    ofText? text = some page ∧
      (∀ before after path, Disk.write before path text.utf8 = .ok after →
        (Project.load Disk.files path).run after =
          (.ok ⟨Bundle.baseName page.name, page.data, .ofList page.assets⟩, after)) ∧
      ∀ path, (Asset.Library.ofList page.assets).get? path =
        page.assets.find? fun record => record.path = path := by
  have read := ofText?_of_mem_texts storable mem
  refine ⟨read, ?_, Asset.Library.get?_extend .empty page.assets⟩
  intro before after path written
  refine Project.run_load (Disk.written_of_write written).read ?_
  rw [Project.ofText?, read]
  rfl

def depot : Json :=
  .array [.number (.integer (-9223372036854775808)), .number (.integer 18446744073709551615),
    .object [(['k'], .null), (['l'], .string ['\x01', '"'])]]

def depotPage : SavedPage where
  id := ['7']
  name := "Depot \\ Nord".toList
  description := []
  created := ⟨⟨2016, 12, 31⟩, 86399, 1000000500⟩
  modified := ⟨⟨9999, 2, 28⟩, 0, 120000000⟩
  data := .ofJson depot
  assets := [⟨['p'], "/assets/p".toList, "image/png".toList, [0, 255], 18446744073709551615⟩]

def bareDisk : Disk := ⟨.folder [], []⟩

theorem write_bareDisk (bytes : Bytes) : bareDisk.write ['f'] bytes =
    .ok { bareDisk with root := bareDisk.root.put [['f']] (.file bytes) } := by
  have place : Disk.target bareDisk.root Disk.maxLinks [] ([] ++ [['f']]) = .ok ([] ++ [['f']]) :=
    Disk.target_eq_of_entry (by decide) (by rw [Disk.follow]) rfl (.inl rfl)
  have opened : bareDisk.write ['f'] bytes = (do
      let place ← Disk.target bareDisk.root Disk.maxLinks [] ([] ++ [['f']])
      return { bareDisk with root := bareDisk.root.put place (.file bytes) }) := rfl
  rw [opened, place]
  rfl

theorem round_trip_depotPage : depotPage.IsStorable ∧
    ofText? (depotPage.toJson.pretty 0) = some depotPage ∧
    ∃ after, bareDisk.write ['f'] (depotPage.toJson.pretty 0).utf8 = .ok after ∧
      (Project.load Disk.files ['f']).run after =
        (.ok ⟨"depot___nord".toList, depotPage.data, .ofList depotPage.assets⟩, after) := by
  have json : depotPage.data.toJson = depot := rfl
  have storable : depotPage.IsStorable := {
    sorted := Node.sorted_ofJson depot
    integral := by simp [json, depot, Json.Number.IsWord]
    shallow := by rw [json]; decide
    created := ⟨by decide, by decide, by decide, by decide, by decide⟩
    modified := ⟨by decide, by decide, by decide, by decide, by decide⟩ }
  have mem : depotPage.toJson.pretty 0 ∈ depotPage.texts := by simp [texts]
  obtain ⟨read, loads, -⟩ := round_trip storable mem
  have written := write_bareDisk (depotPage.toJson.pretty 0).utf8
  have name : Bundle.baseName depotPage.name = "depot___nord".toList := by decide +kernel
  have loaded := loads bareDisk _ ['f'] written
  rw [name] at loaded
  exact ⟨storable, read, _, written, loaded⟩

end SavedPage
end Pagecraft
