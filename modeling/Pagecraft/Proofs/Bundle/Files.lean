import Mathlib.Data.List.Induction
import Pagecraft.Bundle.Package
import Pagecraft.Proofs.Asset.DataUri
import Pagecraft.Proofs.Asset.Library
import Pagecraft.Proofs.Text.Keyed

/-! When packing succeeds, and what it then gives. -/
namespace Pagecraft

theorem Except.bind_eq_ok_iff {ε α β : Type} {x : Except ε α} {f : α → Except ε β} {b : β} :
    (x >>= f) = .ok b ↔ ∃ a, x = .ok a ∧ f a = .ok b := by
  cases x with
  | error e => simp [bind, Except.bind]
  | ok a => simp [bind, Except.bind]

namespace Bundle

/-- The place of an asset below the directory of assets. -/
def place (record : Asset.Record) : Text :=
  (Text.dropMark? Asset.pathMark record.path).getD record.name

theorem entryPath_eq (record : Asset.Record) :
    entryPath record = if isSafe (place record) then .ok (assetsDirectory ++ place record)
      else .error (.unsafePath record.path) := rfl

theorem entryPath_eq_ok_iff {record : Asset.Record} {path : Text} :
    entryPath record = .ok path ↔
      isSafe (place record) ∧ path = assetsDirectory ++ place record := by
  rw [entryPath_eq]
  split
  case isTrue safe => simp [safe, eq_comm]
  case isFalse unsafe' => simp [unsafe']

theorem entryPath_eq_error {record : Asset.Record} {e : Error} (h : entryPath record = .error e) :
    e = .unsafePath record.path := by
  rw [entryPath_eq] at h
  split at h
  · cases h
  · exact (Except.error.inj h).symm

theorem addFile_eq_ok_iff {table : Keyed Text} {files files' : Keyed Bytes}
    {record : Asset.Record} :
    addFile table files record = .ok files' ↔
      ∃ path bytes, entryPath record = .ok path ∧ payload table record = .ok bytes ∧
        ¬Keyed.hasKey path files ∧ Keyed.put path bytes files = files' := by
  simp only [addFile, Except.bind_eq_ok_iff]
  refine exists_congr fun path => ?_
  rw [← exists_and_left]
  refine exists_congr fun bytes => and_congr_right fun _ => and_congr_right fun _ => ?_
  cases Keyed.hasKey path files <;> simp [throw, throwThe, MonadExceptOf.throw, pure, Except.pure]

theorem addFile_eq_error_iff {table : Keyed Text} {files : Keyed Bytes} {record : Asset.Record}
    {e : Error} :
    addFile table files record = .error e ↔
      entryPath record = .error e ∨ ∃ path, entryPath record = .ok path ∧
        (payload table record = .error e ∨ ∃ bytes, payload table record = .ok bytes ∧
          Keyed.hasKey path files ∧ e = .duplicateEntry path) := by
  unfold addFile
  cases entryPath record with
  | error cause => simp [bind, Except.bind]
  | ok path =>
    cases payload table record with
    | error cause => simp [bind, Except.bind]
    | ok bytes =>
      cases taken : Keyed.hasKey path files with
      | false => simp [bind, Except.bind, taken, pure, Except.pure]
      | true =>
        simp only [bind, Except.bind, taken, if_true, throw, throwThe, MonadExceptOf.throw,
          Except.error.injEq, Except.ok.injEq, reduceCtorEq, false_or, exists_eq_left', true_and]
        exact eq_comm

theorem payload_inlineTable {library : Asset.Library} {record : Asset.Record}
    (mem : record ∈ library.records) :
    payload library.inlineTable record =
      (DataUri.decode record.dataUri).mapError (.undecodable record.path) := by
  rw [payload, Asset.Library.get?_inlineTable, Asset.Library.get?_of_mem mem]
  rfl

/-- The records that can be packed together: all have a place in the archive and a media type that
a data URI can carry, and their places are different. -/
structure Packable (records : List Asset.Record) : Prop where
  placed : ∀ record ∈ records, ∃ path, entryPath record = .ok path
  commaFree : ∀ record ∈ records, ',' ∉ record.mediaType
  apart : (records.map entryPath).Nodup

/-- What is wrong with a record that is packed after others: that it has no place, or else that its
payload is not read back, or else that its place is taken. -/
inductive Offends (earlier : List Asset.Record) (record : Asset.Record) : Error → Prop
  | unsafePath (unplaced : ∀ path, entryPath record ≠ .ok path) :
    Offends earlier record (.unsafePath record.path)
  | undecodable {path : Text} {cause : DataUri.Error} (placed : entryPath record = .ok path)
    (comma : ',' ∈ record.mediaType) (failed : DataUri.decode record.dataUri = .error cause) :
    Offends earlier record (.undecodable record.path cause)
  | duplicateEntry {path : Text} {other : Asset.Record} (placed : entryPath record = .ok path)
    (commaFree : ',' ∉ record.mediaType) (before : other ∈ earlier)
    (taken : entryPath other = .ok path) :
    Offends earlier record (.duplicateEntry path)

structure Holds (files : Keyed Bytes) (records : List Asset.Record) : Prop where
  sorted : Keyed.Sorted files
  contents : (files.map fun file => (Except.ok file.1, file.2)).Perm
    (records.map fun record => (entryPath record, record.bytes))

theorem Packable.not_offends {earlier later : List Asset.Record} {record : Asset.Record}
    (h : Packable (earlier ++ record :: later)) (e : Error) : ¬Offends earlier record e := by
  have mem : record ∈ earlier ++ record :: later := by simp
  intro offends
  cases offends with
  | unsafePath unplaced =>
    obtain ⟨path, placed⟩ := h.placed record mem
    exact unplaced path placed
  | undecodable _ comma _ => exact h.commaFree record mem comma
  | duplicateEntry placed _ before taken =>
    have apart := h.apart
    rw [List.map_append, List.map_cons, List.nodup_append] at apart
    exact apart.2.2 _ (List.mem_map_of_mem before) _ List.mem_cons_self (taken.trans placed.symm)

theorem Holds.hasKey_iff {files : Keyed Bytes} {records : List Asset.Record}
    (h : Holds files records) {path : Text} :
    Keyed.hasKey path files ↔ ∃ record ∈ records, entryPath record = .ok path := by
  have places := h.contents.map Prod.fst
  rw [List.map_map, List.map_map] at places
  have mem := @List.Perm.mem_iff _ (Except.ok path) _ _ places
  simpa [Keyed.hasKey_iff, Keyed.keys] using mem

section
variable {library : Asset.Library} {files : Keyed Bytes} {earlier : List Asset.Record}
  {record : Asset.Record}

theorem addFile_error_iff_offends (holds : Holds files earlier)
    (mem : record ∈ library.records) {e : Error} :
    addFile library.inlineTable files record = .error e ↔ Offends earlier record e := by
  rw [addFile_eq_error_iff, payload_inlineTable mem]
  constructor
  · rintro (unplaced | ⟨path, placed, failed | ⟨bytes, decoded, taken, rfl⟩⟩)
    · rw [entryPath_eq_error unplaced]
      apply Offends.unsafePath
      intro path placed
      rw [placed] at unplaced
      cases unplaced
    · cases result : DataUri.decode record.dataUri with
      | ok bytes => simp [result, Except.mapError] at failed
      | error cause =>
        simp only [result, Except.mapError, Except.error.injEq] at failed
        subst failed
        refine .undecodable placed ?_ result
        by_contra free
        have read := DataUri.decode_encode free record.bytes
        rw [Asset.Record.dataUri, read] at result
        cases result
    · rw [Except.mapError_eq_ok_iff, Asset.Record.dataUri, DataUri.decode_encode_eq_ok_iff]
        at decoded
      obtain ⟨other, before, there⟩ := holds.hasKey_iff.mp taken
      exact .duplicateEntry placed decoded.1 before there
  · intro offends
    cases offends with
    | unsafePath unplaced =>
      left
      cases place : entryPath record with
      | ok path => exact absurd place (unplaced path)
      | error e => rw [entryPath_eq_error place]
    | undecodable placed _ failed =>
      right
      exact ⟨_, placed, .inl (by rw [failed]; rfl)⟩
    | duplicateEntry placed free before there =>
      right
      have decoded := DataUri.decode_encode free record.bytes
      exact ⟨_, placed, .inr ⟨record.bytes, by rw [Asset.Record.dataUri, decoded]; rfl,
        holds.hasKey_iff.mpr ⟨_, before, there⟩, rfl⟩⟩

theorem addFile_ok (holds : Holds files earlier) (packable : Packable earlier)
    (mem : record ∈ library.records) {files' : Keyed Bytes}
    (added : addFile library.inlineTable files record = .ok files') :
    Packable (earlier ++ [record]) ∧ Holds files' (earlier ++ [record]) := by
  obtain ⟨path, bytes, placed, read, new, rfl⟩ := addFile_eq_ok_iff.mp added
  rw [payload_inlineTable mem, Except.mapError_eq_ok_iff, Asset.Record.dataUri,
    DataUri.decode_encode_eq_ok_iff] at read
  obtain ⟨free, rfl⟩ := read
  constructor
  · constructor
    case placed =>
      simp only [List.forall_mem_append, List.forall_mem_singleton]
      exact ⟨packable.placed, path, placed⟩
    case commaFree =>
      simp only [List.forall_mem_append, List.forall_mem_singleton]
      exact ⟨packable.commaFree, free⟩
    case apart =>
      rw [List.map_append, List.map_singleton, List.nodup_append]
      refine ⟨packable.apart, List.nodup_singleton _, ?_⟩
      intro a before b here same
      obtain ⟨other, among, rfl⟩ := List.mem_map.mp before
      rw [List.mem_singleton.mp here, placed] at same
      exact new (holds.hasKey_iff.mpr ⟨other, among, same⟩)
  · refine ⟨holds.sorted.put path record.bytes, ?_⟩
    calc ((Keyed.put path record.bytes files).map fun file => (Except.ok file.1, file.2)).Perm
          (((path, record.bytes) :: files).map fun file => (Except.ok file.1, file.2)) :=
        (Keyed.put_perm new).map _
      List.Perm _ ((entryPath record, record.bytes) ::
          earlier.map fun record => (entryPath record, record.bytes)) := by
        rw [List.map_cons, placed]
        exact holds.contents.cons _
      List.Perm _ ((earlier ++ [record]).map fun record => (entryPath record, record.bytes)) := by
        rw [List.map_append, List.map_singleton]
        exact (List.perm_append_singleton _ _).symm

end

theorem foldlM_addFile {library : Asset.Library} {records : List Asset.Record}
    (among : ∀ record ∈ records, record ∈ library.records) :
    (∀ packed, records.foldlM (addFile library.inlineTable) [] = .ok packed →
      Packable records ∧ Holds packed records) ∧
    ∀ e, records.foldlM (addFile library.inlineTable) [] = .error e →
      ∃ front record back, records = front ++ record :: back ∧ Packable front ∧
        Offends front record e := by
  induction records using List.reverseRecOn with
  | nil =>
    constructor
    · rintro packed ⟨⟩
      exact ⟨⟨by simp, by simp, .nil⟩, ⟨.nil, .refl _⟩⟩
    · intro e failed
      cases failed
  | append_singleton records record ih =>
    obtain ⟨success, failure⟩ := ih fun other mem => among other (List.mem_append_left _ mem)
    have mem : record ∈ library.records := among record (by simp)
    rw [List.foldlM_append]
    cases ran : records.foldlM (addFile library.inlineTable) [] with
    | ok packed =>
      obtain ⟨packable, holds⟩ := success packed ran
      have last : (Except.ok packed >>= fun files =>
          [record].foldlM (addFile library.inlineTable) files) =
          addFile library.inlineTable packed record :=
        bind_pure (addFile library.inlineTable packed record)
      rw [last]
      constructor
      · intro packed' added
        exact addFile_ok holds packable mem added
      · intro e failed
        exact ⟨records, record, [], rfl, packable, (addFile_error_iff_offends holds mem).mp failed⟩
    | error cause =>
      constructor
      · intro packed' added
        cases added
      · rintro e ⟨⟩
        obtain ⟨front, first, back, rfl, packable, offends⟩ := failure cause ran
        exact ⟨front, first, back ++ [record], by simp, packable, offends⟩

theorem files_isOk_iff {library : Asset.Library} :
    (∃ packed, files library = .ok packed) ↔ Packable library.records := by
  obtain ⟨success, failure⟩ := @foldlM_addFile library library.records fun _ mem => mem
  constructor
  · rintro ⟨packed, made⟩
    exact (success packed made).1
  · intro packable
    cases made : files library with
    | ok packed => exact ⟨packed, rfl⟩
    | error e =>
      obtain ⟨front, record, back, eq, _, offends⟩ := failure e made
      rw [eq] at packable
      exact absurd offends (packable.not_offends e)

theorem holds_files {library : Asset.Library} {packed : Keyed Bytes}
    (made : files library = .ok packed) : Holds packed library.records :=
  ((foldlM_addFile fun _ mem => mem).1 packed made).2

theorem length_files {library : Asset.Library} {packed : Keyed Bytes}
    (made : files library = .ok packed) : packed.length = library.size := by
  simpa [Asset.Library.size] using (holds_files made).contents.length_eq

theorem files_eq_error_iff {library : Asset.Library} {e : Error} :
    files library = .error e ↔
      ∃ front record back, library.records = front ++ record :: back ∧ Packable front ∧
        Offends front record e := by
  refine ⟨(foldlM_addFile fun _ mem => mem).2 e, ?_⟩
  rintro ⟨front, record, back, eq, packable, offends⟩
  have among : ∀ other ∈ front, other ∈ library.records := by
    intro other mem
    rw [eq]
    exact List.mem_append_left _ mem
  have mem : record ∈ library.records := by simp [eq]
  have step : ∃ packed, front.foldlM (addFile library.inlineTable) [] = .ok packed ∧
      Holds packed front := by
    obtain ⟨success, failure⟩ := foldlM_addFile among
    cases ran : front.foldlM (addFile library.inlineTable) [] with
    | ok packed => exact ⟨packed, rfl, (success packed ran).2⟩
    | error cause =>
      obtain ⟨front', record', back', rfl, _, offends'⟩ := failure cause ran
      exact absurd offends' (packable.not_offends cause)
  obtain ⟨packed, ran, holds⟩ := step
  have failed := (addFile_error_iff_offends holds mem).mpr offends
  rw [files, eq, List.foldlM_append, ran]
  simp [bind, Except.bind, failed]

theorem package_eq_ok_iff {tree : Node} {template : Text} {library : Asset.Library} {base : Text}
    {bundle : Bundle} :
    package tree template library base = .ok bundle ↔
      isBaseName base ∧ ∃ packed, files library = .ok packed ∧
        bundle = ⟨Template.render template (pageData library tree),
          layout base (Template.render template (pageData library tree)) packed⟩ := by
  rw [package]
  split
  case isTrue named =>
    rw [Except.bind_eq_ok_iff]
    simp only [named, true_and]
    refine exists_congr fun packed => and_congr_right fun _ => ?_
    exact ⟨fun eq => (Except.ok.inj eq).symm, fun eq => congrArg Except.ok eq.symm⟩
  case isFalse unnamed => simp [unnamed]

theorem exists_package {library : Asset.Library} {base : Text} (named : isBaseName base)
    (made : (files library).isOk) (tree : Node) (template : Text) :
    ∃ bundle, package tree template library base = .ok bundle := by
  cases packed : files library with
  | error cause => simp [packed, Except.isOk, Except.toBool] at made
  | ok packed' => exact ⟨_, package_eq_ok_iff.mpr ⟨named, packed', packed, rfl⟩⟩

/-! The kinds of the entries -/

theorem filter_asset_layout (base document : Text) (packed : Keyed Bytes) :
    (layout base document packed).filter (fun entry => entry.kind = .asset) =
      packed.map fun (path, bytes) => ⟨path, .asset, bytes⟩ := by
  simp [layout, List.filter_map, Function.comp_def]

theorem filter_document_layout (base document : Text) (packed : Keyed Bytes) :
    (layout base document packed).filter (fun entry => entry.kind = .document) =
      [⟨base ++ ".html".toList, .document, document.utf8⟩] := by
  simp [layout, List.filter_map, Function.comp_def]

section
variable {tree : Node} {template : Text} {library : Asset.Library} {base : Text} {bundle : Bundle}

theorem length_assets (h : package tree template library base = .ok bundle) :
    (bundle.entries.filter fun entry => entry.kind = .asset).length = library.size := by
  obtain ⟨_, packed, made, rfl⟩ := package_eq_ok_iff.mp h
  rw [filter_asset_layout, List.length_map, length_files made]

theorem digest_document (h : package tree template library base = .ok bundle) :
    (bundle.entries.filter fun entry => entry.kind = .document).map Entry.digest =
      [Sha256.hex bundle.document.utf8] := by
  obtain ⟨_, packed, _, rfl⟩ := package_eq_ok_iff.mp h
  rw [filter_document_layout]
  rfl

end
end Bundle
end Pagecraft
