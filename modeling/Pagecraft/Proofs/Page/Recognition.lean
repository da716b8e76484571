import Pagecraft.Proofs.Page.Saved

/-! What is recognized as a saved page. A record is one only if all of its fields are in order, down
to the payloads of its assets. For a record that is not there is no error of its own: like any other
object it is content as a whole, if it can be read as content. -/
namespace Pagecraft

inductive Asset.Record.Reads (written : Json.Written) (record : Asset.Record) : Prop
  | intro {name path mediaType payload size : Json.Written} {encoded : Text}
    (fields : written.fields? fieldNames =
      some [some name, some path, some mediaType, some payload, some size])
    (name_read : name.text? = some record.name) (path_read : path.text? = some record.path)
    (mediaType_read : mediaType.text? = some record.mediaType)
    (payload_read : payload.text? = some encoded)
    (bytes_read : Base64.decode encoded = .ok record.bytes)
    (size_read : size.word64? = some record.size)

theorem Asset.Record.ofWritten?_eq_some_iff {written : Json.Written} {record : Asset.Record} :
    ofWritten? written = some record ↔ Reads written record := by
  constructor
  · intro read
    rw [ofWritten?] at read
    obtain ⟨fields, found, read⟩ := Option.bind_eq_some_iff.mp read
    split at read
    case h_2 => cases read
    case h_1 name path mediaType payload size =>
      simp only [Option.bind_eq_bind, Option.bind_eq_some_iff] at read
      obtain ⟨name', name_read, path', path_read, mediaType', mediaType_read, encoded, payload_read,
        bytes, bytes_read, size', size_read, same⟩ := read
      cases same
      have decoded : Base64.decode encoded = .ok bytes := by
        cases decode : Base64.decode encoded with
        | error e => simp [decode, Except.toOption] at bytes_read
        | ok held => simpa [decode, Except.toOption] using bytes_read
      exact ⟨found, name_read, path_read, mediaType_read, payload_read, decoded, size_read⟩
  · rintro ⟨fields, name_read, path_read, mediaType_read, payload_read, bytes_read, size_read⟩
    rw [ofWritten?, fields]
    simp only [Option.bind_eq_bind, Option.bind_some, name_read, path_read, mediaType_read,
      payload_read, bytes_read, size_read]
    rfl

namespace SavedPage

/-- What is read as a page: a record with its known members. Description and assets may be left out.
-/
structure Reads (named : List (Text × Json.Written)) (page : SavedPage) : Prop where
  id : (Keyed.get? "id".toList named).bind (·.text?) = some page.id
  name : (Keyed.get? "name".toList named).bind (·.text?) = some page.name
  description : Json.Written.orElse (·.text?) [] (Keyed.get? "description".toList named) =
    some page.description
  created : ((Keyed.get? "created".toList named).bind (·.text?)).bind Instant.ofText? =
    some page.created
  modified : ((Keyed.get? "modified".toList named).bind (·.text?)).bind Instant.ofText? =
    some page.modified
  data : ((Keyed.get? "data".toList named).bind (Json.ofWritten? 126)).map Node.ofJson =
    some page.data
  assets : (Keyed.get? "assets".toList named = none ∧ page.assets = []) ∨
    ∃ items, Keyed.get? "assets".toList named = some (.array items) ∧
      List.Forall₂ Asset.Record.Reads items page.assets

theorem list?_eq_some_iff {value : Json.Written} {records : List Asset.Record} :
    value.list? Asset.Record.ofWritten? = some records ↔
      ∃ items, value = .array items ∧ List.Forall₂ Asset.Record.Reads items records := by
  cases value with
  | array items =>
    simp only [Json.Written.list?, Json.Written.mapM_eq_some_iff,
      Asset.Record.ofWritten?_eq_some_iff, Json.Written.array.injEq, exists_eq_left']
  | _ => simp [Json.Written.list?]

theorem assets_eq_some_iff {field : Option Json.Written} {records : List Asset.Record} :
    Json.Written.orElse (Json.Written.list? Asset.Record.ofWritten?) [] field = some records ↔
      (field = none ∧ records = []) ∨
        ∃ items, field = some (.array items) ∧ List.Forall₂ Asset.Record.Reads items records := by
  cases field with
  | none => simp [Json.Written.orElse, eq_comm]
  | some value => simp [Json.Written.orElse, list?_eq_some_iff]

theorem ofWritten?_object_eq_some_iff {members : List (List Json.Glyph × Json.Written)}
    {page : SavedPage} :
    ofWritten? (.object members) = some page ↔
      ∃ named, Json.Written.Named fieldNames members named ∧ Reads named page := by
  constructor
  · intro read
    rw [ofWritten?] at read
    obtain ⟨fields, found, read⟩ := Option.bind_eq_some_iff.mp read
    obtain ⟨named, opened, rfl⟩ := Json.Written.fields?_object_eq_some_iff.mp found
    refine ⟨named, opened, ?_⟩
    split at read
    case h_2 => cases read
    case h_1 id name description created modified data assets values =>
      simp only [fieldNames, List.map_cons, List.map_nil, List.cons.injEq, and_true] at values
      obtain ⟨id_is, name_is, description_is, created_is, modified_is, data_is, assets_is⟩ := values
      simp only [Option.bind_eq_bind, Option.bind_eq_some_iff] at read
      obtain ⟨id', id_read, name', name_read, description', description_read, created',
        created_read, created'', time, modified', modified_read, modified'', time', data', data_read, assets',
        assets_read, same⟩ := read
      cases same
      refine {
        id := by rw [id_is, Option.bind_some, id_read]
        name := by rw [name_is, Option.bind_some, name_read]
        description := by rw [description_is, description_read]
        created := by rw [created_is, Option.bind_some, created_read, Option.bind_some, time]
        modified := by rw [modified_is, Option.bind_some, modified_read, Option.bind_some, time']
        data := ?_
        assets := assets_eq_some_iff.mp (assets_is ▸ assets_read) }
      have depth : Json.maxDepth - 1 = 126 := rfl
      rw [data_is, Option.bind_some, ← depth, data_read, Option.map_some]
  · rintro ⟨named, opened, reads⟩
    have found := Json.Written.fields?_object_eq_some_iff.mpr ⟨named, opened, rfl⟩
    obtain ⟨id, id_is, id_read⟩ := Option.bind_eq_some_iff.mp reads.id
    obtain ⟨name, name_is, name_read⟩ := Option.bind_eq_some_iff.mp reads.name
    obtain ⟨created, written, time⟩ := Option.bind_eq_some_iff.mp reads.created
    obtain ⟨_, created_is, created_read⟩ := Option.bind_eq_some_iff.mp written
    obtain ⟨modified, written', time'⟩ := Option.bind_eq_some_iff.mp reads.modified
    obtain ⟨_, modified_is, modified_read⟩ := Option.bind_eq_some_iff.mp written'
    obtain ⟨data, tree, data_read⟩ := Option.map_eq_some_iff.mp reads.data
    obtain ⟨_, data_is, tree⟩ := Option.bind_eq_some_iff.mp tree
    have assets := assets_eq_some_iff.mpr reads.assets
    have depth : Json.maxDepth - 1 = 126 := rfl
    rw [ofWritten?, found]
    simp only [fieldNames, List.map_cons, List.map_nil, id_is, name_is, created_is, modified_is,
      data_is, Option.bind_eq_bind, Option.bind_some, id_read, name_read, reads.description,
      created_read, time, modified_read, time', depth, tree, assets, data_read]
    rfl

end SavedPage

namespace Project

/-- That the members of an object are no saved page, whatever is wrong with them. -/
def Damaged (members : List (List Json.Glyph × Json.Written)) : Prop :=
  ∀ named page, Json.Written.Named SavedPage.fieldNames members named → ¬SavedPage.Reads named page

/-- What an object in a file is loaded as: the page that it is, the tree that it is as a whole, or
nothing. -/
inductive Loaded (path : Text) (members : List (List Json.Glyph × Json.Written)) :
    Except Failure Project → Prop
  | page {named : List (Text × Json.Written)} {page : SavedPage}
    (opened : Json.Written.Named SavedPage.fieldNames members named)
    (reads : SavedPage.Reads named page) :
    Loaded path members (.ok ⟨Bundle.baseName page.name, page.data, .ofList page.assets⟩)
  | content {fields : List (Text × Json)} (damaged : Damaged members)
    (readable : Json.ofWrittenMembers? 126 members = some fields) :
    Loaded path members (.ok ⟨stem path, .ofJson (.object fields), .empty⟩)
  | nothing (damaged : Damaged members) (unreadable : Json.ofWrittenMembers? 126 members = none) :
    Loaded path members (.error (.contentInvalid path))

theorem ofText?_object {path text : Text} {members : List (List Json.Glyph × Json.Written)}
    (object : Json.Written.ofText? text = some (.object members)) :
    Project.ofText? path text =
      ((SavedPage.ofWritten? (.object members)).map ofSavedPage).or
        ((Json.ofWrittenMembers? 126 members).map fun fields =>
          ⟨stem path, .ofJson (.object fields), .empty⟩) := by
  have whole : Json.ofText? text = (Json.ofWrittenMembers? 126 members).map .object := by
    rw [Json.ofText?, object, Option.bind_some, Json.ofWritten?]
    rfl
  rw [Project.ofText?, SavedPage.ofText?, object, Option.bind_some, Node.ofText?, whole,
    Option.map_map, Option.map_map]
  cases SavedPage.ofWritten? (.object members) <;> rfl

theorem run_load_none {disk : Disk} {path text : Text} (read : disk.read path = .ok text.utf8)
    (none : Project.ofText? path text = none) :
    (Project.load Disk.files path).run disk = (.error (.contentInvalid path), disk) := by
  rw [Project.load, run_bind_of_run_eq (Disk.run_readText read)]
  dsimp only
  rw [none]
  rfl

/-- Loading a file with an object in it. A page has the content under `data`; an object that looks
like a page but is none is not refused for that. -/
theorem load_object {disk : Disk} {path text : Text}
    {members : List (List Json.Glyph × Json.Written)} (read : disk.read path = .ok text.utf8)
    (object : Json.Written.ofText? text = some (.object members)) :
    ∃ answer, (Project.load Disk.files path).run disk = (answer, disk) ∧
      Loaded path members answer := by
  have made := @ofText?_object path text members object
  cases page : SavedPage.ofWritten? (.object members) with
  | some page' =>
    obtain ⟨named, opened, reads⟩ := SavedPage.ofWritten?_object_eq_some_iff.mp page
    rw [page] at made
    exact ⟨_, Project.run_load read made, .page opened reads⟩
  | none =>
    have damaged : Damaged members := by
      intro named page' opened reads
      have made := SavedPage.ofWritten?_object_eq_some_iff.mpr ⟨named, opened, reads⟩
      rw [page] at made
      cases made
    cases fields : Json.ofWrittenMembers? 126 members with
    | some fields' =>
      rw [page, fields] at made
      exact ⟨_, Project.run_load read made, .content damaged fields⟩
    | none =>
      rw [page, fields] at made
      exact ⟨_, run_load_none read made, .nothing damaged fields⟩

def diskWith (bytes : Bytes) : Disk :=
  { SavedPage.bareDisk with root := SavedPage.bareDisk.root.put [['f']] (.file bytes) }

theorem read_diskWith (bytes : Bytes) : (diskWith bytes).read ['f'] = .ok bytes :=
  (Disk.written_of_write (SavedPage.write_bareDisk bytes)).read

def leapDayPage : SavedPage where
  id := ['1']
  name := ['n']
  description := []
  created := ⟨⟨2024, 2, 29⟩, 43200, 0⟩
  modified := ⟨⟨2024, 2, 29⟩, 43200, 0⟩
  data := .group []
  assets := []

theorem load_object_leapDay : ∃ members,
    Json.Written.ofText? leapDayPage.toJson.compact = some (.object members) ∧
    Loaded ['f'] members (.ok ⟨['n'], .group [], .ofList []⟩) ∧
    (Project.load Disk.files ['f']).run (diskWith leapDayPage.toJson.compact.utf8) =
      (.ok ⟨['n'], .group [], .ofList []⟩, diskWith leapDayPage.toJson.compact.utf8) := by
  have json : leapDayPage.data.toJson = .object [] := rfl
  have storable : leapDayPage.IsStorable := {
    sorted := Node.sorted_ofJson (.object [])
    integral := by simp [json]
    shallow := by rw [json]; decide
    created := ⟨by decide, by decide, by decide, by decide, by decide⟩
    modified := ⟨by decide, by decide, by decide, by decide, by decide⟩ }
  have page := SavedPage.ofText?_of_mem_texts storable (List.mem_cons_self)
  have name : Bundle.baseName leapDayPage.name = ['n'] := by decide +kernel
  have made : Project.ofText? ['f'] leapDayPage.toJson.compact =
      some ⟨['n'], .group [], .ofList []⟩ := by
    rw [Project.ofText?, page]
    dsimp only
    rw [ofSavedPage, SavedPage.exportName, name]
    rfl
  have read := read_diskWith leapDayPage.toJson.compact.utf8
  have direct := Project.run_load read made
  obtain ⟨members, object⟩ : ∃ members,
      Json.Written.ofText? leapDayPage.toJson.compact = some (.object members) := by
    rw [Json.compact_eq 0]
    exact ⟨_, Json.Written.ofText?_spaced .none 0 storable.integral_toJson⟩
  obtain ⟨answer, ran, loaded⟩ := load_object read object
  obtain rfl : answer = .ok ⟨['n'], .group [], .ofList []⟩ :=
    congrArg Prod.fst (ran.symm.trans direct)
  exact ⟨members, object, loaded, direct⟩

/-- A record without content, and with a word where there should be times. -/
def timeless : Json :=
  .record [("id", .string ['1']), ("name", .string ['n']), ("created", .string "never".toList),
    ("modified", .string "never".toList), ("data", .object [])]

theorem load_timeless :
    Json.ofText? timeless.compact = some timeless ∧
    (diskWith timeless.compact.utf8).read ['f'] = .ok timeless.compact.utf8 ∧
    (Project.load Disk.files ['f']).run (diskWith timeless.compact.utf8) =
      (.ok ⟨['f'], .ofJson timeless, .empty⟩, diskWith timeless.compact.utf8) := by
  have integral : timeless.Integral := by simp [timeless, Json.record]
  have whole : Json.ofText? timeless.compact = some timeless := by
    rw [Json.compact_eq 0]
    exact Json.ofText?_spaced .none 0 integral (by decide)
  have damaged : SavedPage.ofText? timeless.compact = none := by
    rw [Json.compact_eq 0, SavedPage.ofText?, Json.Written.ofText?_spaced .none 0 integral]
    rfl
  have made : Project.ofText? ['f'] timeless.compact = some ⟨['f'], .ofJson timeless, .empty⟩ := by
    rw [Project.ofText?, damaged, Node.ofText?, whole]
    rfl
  have read := read_diskWith timeless.compact.utf8
  exact ⟨whole, read, Project.run_load read made⟩

end Project
end Pagecraft
