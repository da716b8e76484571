import Pagecraft.Proofs.Bundle.Archive
import Pagecraft.Proofs.Bundle.Files
import Pagecraft.Proofs.Text.Utf8

/-! The layout of a bundle: the document, then the directories, then the files of the assets. Every
directory that lies above an entry has come before it, and no two entries have the same path. -/
namespace Pagecraft

namespace Text

theorem eq_cons_of_pairwise_before {first : Text} {texts : List Text}
    (increasing : texts.Pairwise fun a b => before a b) (mem : first ∈ texts)
    (least : ∀ t ∈ texts, t ≠ first → before first t) : ∃ rest, texts = first :: rest := by
  cases texts with
  | nil => cases mem
  | cons t rest =>
    by_cases same : t = first
    · exact ⟨rest, by rw [same]⟩
    · have later : first ∈ rest := (List.mem_cons.mp mem).resolve_left (Ne.symm same)
      have back := (List.pairwise_cons.mp increasing).1 first later
      exact absurd (before_trans back (least t (by simp) same)) (not_before_self t)

end Text

namespace Bundle

/-- That a directory lies above a path, at or below the directory of all assets. -/
structure IsAbove (directory path : Text) : Prop where
  below : assetsDirectory <+: directory
  closed : directory.getLast? = some '/'
  leads : directory <+: path
  proper : directory ≠ path

theorem IsAbove.trans_prefix {directory path longer : Text} (h : IsAbove directory path)
    (more : path <+: longer) : IsAbove directory longer where
  below := h.below
  closed := h.closed
  leads := h.leads.trans more
  proper := by
    rintro rfl
    exact h.proper (h.leads.eq_of_length_le more.length_le)

theorem IsAbove.before {directory path : Text} (h : IsAbove directory path) :
    Text.before directory path := by
  obtain ⟨rest, rfl⟩ := h.leads
  apply Text.before_append
  rintro rfl
  exact h.proper (List.append_nil directory).symm

theorem mem_ancestors {directory path : Text} :
    directory ∈ ancestors path ↔ directory <+: path ∧ directory.getLast? = some '/' := by
  induction path generalizing directory with
  | nil =>
    simp only [ancestors, List.not_mem_nil, List.prefix_nil, false_iff, not_and]
    rintro rfl
    simp
  | cons c path ih =>
    simp only [ancestors, List.mem_append, List.mem_map]
    cases directory with
    | nil =>
      have : ([] : Text) ∉ if c = '/' then [[c]] else [] := by split <;> simp
      simp [this]
    | cons d rest =>
      rw [List.cons_prefix_cons]
      cases rest with
      | nil =>
        have empty : ¬([] : Text) ∈ ancestors path := by
          rw [ih]
          simp
        by_cases slash : c = '/'
        · simp [slash, empty, eq_comm]
        · simp only [if_neg slash, List.not_mem_nil, List.cons.injEq, false_or]
          constructor
          · rintro ⟨other, mem, rfl, rfl⟩
            exact absurd mem empty
          · rintro ⟨⟨rfl, _⟩, last⟩
            exact absurd (by simpa using last) slash
      | cons e rest =>
        have other : d :: e :: rest ∉ if c = '/' then [[c]] else [] := by split <;> simp
        rw [List.getLast?_cons_cons]
        constructor
        · rintro (mem | ⟨found, mem, eq⟩)
          · exact absurd mem other
          · obtain ⟨rfl, rfl⟩ := List.cons.inj eq
            obtain ⟨leads, closed⟩ := ih.mp mem
            exact ⟨⟨rfl, leads⟩, closed⟩
        · rintro ⟨⟨rfl, leads⟩, closed⟩
          exact .inr ⟨e :: rest, ih.mpr ⟨leads, closed⟩, rfl⟩

theorem mem_directories {files : Keyed Bytes} {directory : Text} :
    directory ∈ directories files ↔
      directory = assetsDirectory ∨ ∃ file ∈ files, directory ∈ ancestors file.1 := by
  rw [directories, Keyed.mem_keys_ofList, List.map_map]
  simp [Keyed.keys, Function.comp_def]

theorem pairwise_directories (files : Keyed Bytes) :
    (directories files).Pairwise fun a b => Text.before a b := (Keyed.sorted_ofList _).pairwise_keys

/-! Paths of assets -/

theorem not_isSafe_of_getLast? {path : Text} (h : path.getLast? = none ∨ path.getLast? = some '/') :
    ¬isSafe path := by
  have empty : [] ∈ Text.pieces '/' path := by
    rcases h with none | slash
    · rw [List.getLast?_eq_none_iff.mp none]
      simp [Text.pieces]
    · obtain ⟨front, rfl⟩ := List.getLast?_eq_some_iff.mp slash
      rw [Text.pieces, List.splitOn_append_cons_self]
      simp
  intro safe
  rw [isSafe, Bool.and_eq_true, List.all_eq_true] at safe
  have := safe.2 [] empty
  simp [isSafeSegment] at this

def IsAssetPlace (path : Text) : Prop := ∃ sub, isSafe sub ∧ path = assetsDirectory ++ sub

theorem IsAssetPlace.getLast?_ne {path : Text} (h : IsAssetPlace path) :
    path.getLast? ≠ some '/' := by
  obtain ⟨sub, safe, rfl⟩ := h
  intro slash
  cases last : sub.getLast? with
  | none => exact not_isSafe_of_getLast? (.inl last) safe
  | some c =>
    rw [List.getLast?_append, last, Option.some_or] at slash
    exact not_isSafe_of_getLast? (.inr (last.trans slash)) safe

theorem IsAssetPlace.segments {path : Text} (h : IsAssetPlace path) :
    '\\' ∉ path ∧ ∀ segment ∈ path.pieces '/', segment ∉ [[], ['.'], ['.', '.']] := by
  obtain ⟨sub, safe, rfl⟩ := h
  rw [isSafe, Bool.and_eq_true, List.all_eq_true] at safe
  obtain ⟨noBackslash, segments⟩ := safe
  constructor
  · rw [List.mem_append, not_or]
    exact ⟨by decide, by simpa using noBackslash⟩
  · have pieces : Text.pieces '/' (assetsDirectory ++ sub) =
        "assets".toList :: Text.pieces '/' sub := by
      have noSlash : '/' ∉ "assets".toList := by decide
      exact List.splitOn_append_cons_self_of_not_mem noSlash sub
    rw [pieces, List.forall_mem_cons]
    refine ⟨by decide, fun segment mem => ?_⟩
    simpa [isSafeSegment, and_assoc] using segments segment mem

theorem IsAssetPlace.isAbove_iff {path directory : Text} (h : IsAssetPlace path) :
    IsAbove directory path ↔ directory ∈ ancestors path := by
  rw [mem_ancestors]
  constructor
  · intro above
    exact ⟨above.leads, above.closed⟩
  · rintro ⟨leads, closed⟩
    have proper : directory ≠ path := by
      rintro rfl
      exact h.getLast?_ne closed
    refine ⟨?_, closed, leads, proper⟩
    -- Of two ancestors of one path, one leads to the other; and `assets/` has only itself.
    obtain ⟨sub, _, rfl⟩ := h
    rcases List.prefix_or_prefix_of_prefix (List.prefix_append assetsDirectory sub) leads with
      shorter | longer
    · exact shorter
    · have : directory ∈ ancestors assetsDirectory := mem_ancestors.mpr ⟨longer, closed⟩
      rw [show ancestors assetsDirectory = [assetsDirectory] by decide, List.mem_singleton] at this
      exact this ▸ List.prefix_rfl

/-! The entries in their order -/

section
variable {files : Keyed Bytes} (places : ∀ file ∈ files, IsAssetPlace file.1)
include places

theorem mem_directories_iff {directory : Text} :
    directory ∈ directories files ↔
      directory = assetsDirectory ∨ ∃ file ∈ files, IsAbove directory file.1 := by
  rw [mem_directories]
  refine or_congr_right (exists_congr fun file => and_congr_right fun mem => ?_)
  exact (places file mem).isAbove_iff.symm

theorem prefix_of_mem_directories {directory : Text} (mem : directory ∈ directories files) :
    assetsDirectory <+: directory ∧ directory.getLast? = some '/' := by
  rcases (mem_directories_iff places).mp mem with rfl | ⟨file, _, above⟩
  · exact ⟨List.prefix_rfl, by decide⟩
  · exact ⟨above.below, above.closed⟩

theorem exists_directories : ∃ below, directories files = assetsDirectory :: below := by
  refine Text.eq_cons_of_pairwise_before (Keyed.sorted_ofList _).pairwise_keys
    (mem_directories.mpr (.inl rfl)) fun directory mem ne => ?_
  obtain ⟨rest, rfl⟩ := (prefix_of_mem_directories places mem).1
  apply Text.before_append
  rintro rfl
  exact ne (List.append_nil assetsDirectory)

theorem mem_directories_of_isAbove {directory path : Text}
    (h : path ∈ directories files ∨ path ∈ files.keys) (above : IsAbove directory path) :
    directory ∈ directories files := by
  rcases h with inner | key
  · rcases (mem_directories_iff places).mp inner with rfl | ⟨file, mem, higher⟩
    · exact absurd (above.leads.eq_of_length_le above.below.length_le) above.proper
    · exact (mem_directories_iff places).mpr
        (.inr ⟨file, mem, above.trans_prefix higher.leads⟩)
  · obtain ⟨file, mem, rfl⟩ := List.mem_map.mp key
    exact (mem_directories_iff places).mpr (.inr ⟨file, mem, above⟩)

variable {base : Text} (noSlash : '/' ∉ base)
include noSlash

omit places in
theorem not_prefix_document : ¬assetsDirectory <+: base ++ ".html".toList := by
  intro begins
  have slash : '/' ∈ base ++ ".html".toList := begins.subset (by decide)
  rcases List.mem_append.mp slash with inBase | inEnding
  · exact noSlash inBase
  · exact absurd inEnding (by decide)

theorem nodup_paths_layout (sorted : Keyed.Sorted files) (document : Text) :
    ((layout base document files).map Entry.path).Nodup := by
  have paths : (layout base document files).map Entry.path =
      (base ++ ".html".toList) :: (directories files ++ files.keys) := by
    simp [layout, Keyed.keys, Function.comp_def]
  have inside : ∀ path ∈ directories files ++ files.keys, assetsDirectory <+: path := by
    intro path mem
    rcases List.mem_append.mp mem with directory | key
    · exact (prefix_of_mem_directories places directory).1
    · obtain ⟨file, among, rfl⟩ := List.mem_map.mp key
      obtain ⟨sub, _, eq⟩ := places file among
      exact eq ▸ List.prefix_append assetsDirectory sub
  rw [paths, List.nodup_cons, List.nodup_append]
  refine ⟨fun mem => not_prefix_document noSlash (inside _ mem), ?_, ?_, ?_⟩
  · exact Text.nodup_of_pairwise_before (pairwise_directories files)
  · exact Text.nodup_of_pairwise_before sorted.pairwise_keys
  · rintro directory mem path key rfl
    obtain ⟨file, among, rfl⟩ := List.mem_map.mp key
    exact (places file among).getLast?_ne (prefix_of_mem_directories places mem).2

theorem pairwise_layout (document : Text) :
    (layout base document files).Pairwise fun earlier later =>
      ¬IsAbove later.path earlier.path := by
  rw [layout, List.cons_append, List.pairwise_cons, List.pairwise_append, List.pairwise_map,
    List.pairwise_map]
  refine ⟨?_, ?_, ?_, ?_⟩
  case refine_1 =>
    intro later _ above
    exact not_prefix_document noSlash (above.below.trans above.leads)
  case refine_2 =>
    apply (pairwise_directories files).imp
    intro earlier later before above
    exact Text.not_before_self earlier (Text.before_trans before above.before)
  case refine_3 =>
    apply List.pairwise_of_forall_mem_list
    intro earlier _ later mem above
    exact (places later mem).getLast?_ne above.closed
  case refine_4 =>
    intro directory _ entry mem above
    obtain ⟨file, among, rfl⟩ := List.mem_map.mp mem
    exact (places file among).getLast?_ne above.closed

theorem mem_front_of_isAbove {document : Text} {front back : List Entry} {entry : Entry}
    (split : layout base document files = front ++ entry :: back) {directory : Text}
    (above : IsAbove directory entry.path) : ⟨directory, .directory, []⟩ ∈ front := by
  have mem : entry ∈ layout base document files := by simp [split]
  have inside : entry.path ∈ directories files ∨ entry.path ∈ files.keys := by
    simp only [layout, List.mem_append, List.mem_cons, List.mem_map] at mem
    rcases mem with (rfl | ⟨path, mem, rfl⟩) | ⟨file, mem, rfl⟩
    · exact absurd (above.below.trans above.leads) (not_prefix_document noSlash)
    · exact .inl mem
    · exact .inr (List.mem_map_of_mem mem)
  have listed : ⟨directory, .directory, []⟩ ∈ layout base document files := by
    have := mem_directories_of_isAbove places inside above
    simp [layout, this]
  have order := pairwise_layout places noSlash document
  rw [split] at listed order
  rcases List.mem_append.mp listed with earlier | later
  · exact earlier
  · rcases List.mem_cons.mp later with here | later
    · exact absurd (congrArg Entry.path here) above.proper
    · have := (List.pairwise_cons.mp (List.pairwise_append.mp order).2.1).1 _ later
      exact absurd above this

end

/-- The layout of a bundle with the directories and the files of its assets. -/
structure LaidOut (library : Asset.Library) (base document : Text) (below : List Text)
    (files : Keyed Bytes) (entries : List Entry) : Prop where
  order : entries = ⟨base ++ ".html".toList, .document, document.utf8⟩ ::
    ⟨assetsDirectory, .directory, []⟩ :: below.map (fun path => ⟨path, .directory, []⟩) ++
      files.map fun file => ⟨file.1, .asset, file.2⟩
  directories_increase : below.Pairwise fun a b => a.utf8 < b.utf8
  files_increase : files.Pairwise fun a b => a.1.utf8 < b.1.utf8
  distinct : (entries.map Entry.path).Nodup
  files_of_records : (files.map fun file => (Except.ok file.1, file.2)).Perm
    (library.records.map fun record => (entryPath record, record.bytes))
  directories_above : ∀ directory, directory ∈ below ↔
    directory ≠ assetsDirectory ∧ ∃ file ∈ files, IsAbove directory file.1
  above_first : ∀ front entry back, entries = front ++ entry :: back →
    ∀ directory, IsAbove directory entry.path → ⟨directory, .directory, []⟩ ∈ front
  segments : ∀ file ∈ files,
    '\\' ∉ file.1 ∧ ∀ segment ∈ file.1.pieces '/', segment ∉ [[], ['.'], ['.', '.']]
  described : ∀ entry ∈ entries, entry.size = entry.bytes.length ∧
    entry.digest = if entry.kind = .directory then [] else Sha256.hex entry.bytes

theorem Holds.places {files : Keyed Bytes} {records : List Asset.Record}
    (holds : Holds files records) : ∀ file ∈ files, IsAssetPlace file.1 := by
  intro file mem
  have among : (Except.ok file.1, file.2) ∈
      records.map fun record => (entryPath record, record.bytes) :=
    holds.contents.mem_iff.mp (List.mem_map_of_mem mem)
  obtain ⟨record, _, eq⟩ := List.mem_map.mp among
  obtain ⟨safe, path⟩ := entryPath_eq_ok_iff.mp (Prod.mk.inj eq).1
  exact ⟨place record, safe, path⟩

theorem laidOut_layout {library : Asset.Library} {packed : Keyed Bytes} {base : Text}
    (made : files library = .ok packed) (noSlash : '/' ∉ base) (document : Text) :
    ∃ below, LaidOut library base document below packed (layout base document packed) := by
  have holds := holds_files made
  have places := holds.places
  obtain ⟨below, eq⟩ := exists_directories places
  have increasing := pairwise_directories packed
  rw [eq] at increasing
  obtain ⟨first, increasing⟩ := List.pairwise_cons.mp increasing
  refine ⟨below, ?_⟩
  constructor
  case order =>
    rw [layout, eq]
    rfl
  case directories_increase => exact increasing.imp Text.before_iff_utf8_lt.mp
  case files_increase => exact holds.sorted.imp Text.before_iff_utf8_lt.mp
  case distinct => exact nodup_paths_layout places noSlash holds.sorted document
  case files_of_records => exact holds.contents
  case directories_above =>
    intro directory
    have all := @mem_directories_iff packed places directory
    rw [eq, List.mem_cons] at all
    have apart : directory ∈ below → directory ≠ assetsDirectory := by
      intro mem same
      exact Text.not_before_self assetsDirectory (same ▸ first directory mem)
    constructor
    · intro mem
      exact ⟨apart mem, (all.mp (.inr mem)).resolve_left (apart mem)⟩
    · rintro ⟨ne, above⟩
      exact (all.mpr (.inr above)).resolve_left ne
  case above_first =>
    intro front entry back split directory above
    exact mem_front_of_isAbove places noSlash split above
  case segments => exact fun file mem => (places file mem).segments
  case described =>
    intro entry mem
    refine ⟨rfl, ?_⟩
    cases kind : entry.kind <;> simp [Entry.digest, kind]

theorem isBaseName_iff {base : Text} :
    isBaseName base ↔ base ≠ [] ∧ '/' ∉ base ∧ '\\' ∉ base ∧ base ≠ ['.', '.'] := by
  simp [isBaseName, and_assoc]

theorem exists_laidOut {tree : Node} {template : Text} {library : Asset.Library} {base : Text}
    {bundle : Bundle} (made : package tree template library base = .ok bundle) :
    ∃ below files, LaidOut library base bundle.document below files bundle.entries := by
  obtain ⟨named, packed, files, rfl⟩ := package_eq_ok_iff.mp made
  obtain ⟨below, laidOut⟩ := laidOut_layout files (isBaseName_iff.mp named).2.1
    (Template.render template (pageData library tree))
  exact ⟨below, packed, laidOut⟩

/-- Every bundle has the layout, and its archive lists the same entries. This holds of any writer
that keeps entries with different paths in order, and of archives that are written here unless they
are too large. -/
theorem package_laidOut {tree : Node} {template : Text} {library : Asset.Library} {base : Text}
    {bundle : Bundle} (made : package tree template library base = .ok bundle) :
    (∃ below files, LaidOut library base bundle.document below files bundle.entries) ∧
    (∀ (Stored : Type) (write : List Entry → Stored) (listing : Stored → List (Bytes × Bytes)),
      (∀ entries, (entries.map Entry.path).Nodup →
        listing (write entries) = entries.map Entry.stored) →
      listing (write bundle.entries) = bundle.entries.map Entry.stored) ∧
    (Archive.Fits bundle.entries →
      Archive.listing? (Archive.bytes bundle.entries) =
        some (bundle.entries.map Entry.stored)) := by
  obtain ⟨below, files, laidOut⟩ := exists_laidOut made
  refine ⟨⟨below, files, laidOut⟩, ?_, Archive.listing?_bytes⟩
  intro Stored write listing keeps
  exact keeps bundle.entries laidOut.distinct

def nested : Asset.Library :=
  .ofList [.ofBytes "logo.svg".toList "/assets/logo.svg".toList "image/svg+xml".toList [1, 2],
    .ofBytes "a.svg".toList "/assets/icons/sub/a.svg".toList "image/svg+xml".toList [3],
    .ofBytes "icons.svg".toList "/assets/icons.svg".toList "image/svg+xml".toList []]

def nestedEntries : List Entry :=
  [⟨"p.html".toList, .document, [0x78]⟩,
    ⟨"assets/".toList, .directory, []⟩,
    ⟨"assets/icons/".toList, .directory, []⟩,
    ⟨"assets/icons/sub/".toList, .directory, []⟩,
    ⟨"assets/icons.svg".toList, .asset, []⟩,
    ⟨"assets/icons/sub/a.svg".toList, .asset, [3]⟩,
    ⟨"assets/logo.svg".toList, .asset, [1, 2]⟩]

theorem package_laidOut_nested :
    package (.text []) "x".toList nested ['p'] = .ok ⟨"x".toList, nestedEntries⟩ ∧
    (∃ below files, LaidOut nested ['p'] "x".toList below files nestedEntries) ∧
    Archive.listing? (Archive.bytes nestedEntries) = some (nestedEntries.map Entry.stored) := by
  have packs : package (.text []) "x".toList nested ['p'] = .ok ⟨"x".toList, nestedEntries⟩ := by
    decide +kernel
  have fits : Archive.Fits nestedEntries := by
    constructor
    · decide
    · decide
    · decide +kernel
  obtain ⟨laidOut, _, listed⟩ := package_laidOut packs
  exact ⟨packs, laidOut, listed fits⟩

end Bundle
end Pagecraft
