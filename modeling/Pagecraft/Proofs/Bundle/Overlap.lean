import Pagecraft.Proofs.Bundle.Layout

/-! Which bundles can be unpacked. Where one asset lies below another one, the archive has a file and
a directory of the same name, and no disk can hold both. Packing does not look for that. -/
namespace Pagecraft.Bundle

/-- That another entry lies below a file, as if the file were a directory. -/
def Entry.Blocks (file other : Entry) : Prop :=
  file.kind ≠ .directory ∧ file.path ++ ['/'] <+: other.path

instance (file other : Entry) : Decidable (file.Blocks other) :=
  inferInstanceAs (Decidable (_ ∧ _))

/-- That the asset of one record lies below that of another, as if that one were a directory. -/
def Overlaps (record other : Asset.Record) : Prop := place record ++ ['/'] <+: place other

instance (record other : Asset.Record) : Decidable (Overlaps record other) :=
  inferInstanceAs (Decidable (_ <+: _))

theorem not_prefix_of_document {base path : Text} (noSlash : '/' ∉ base)
    (inside : assetsDirectory <+: path) : ¬(base ++ ".html".toList) ++ ['/'] <+: path := by
  have differ : assetsDirectory ≠ (base ++ ".html".toList) ++ ['/'] := by
    intro same
    have names : "assets".toList = base ++ ".html".toList := List.append_cancel_right same
    have last := congrArg List.getLast? names
    rw [List.getLast?_append] at last
    cases last
  intro begins
  rcases List.prefix_or_prefix_of_prefix begins inside with shorter | longer
  · have parts : assetsDirectory = "assets".toList ++ ['/'] := by decide
    rw [parts, List.prefix_concat_iff, ← parts] at shorter
    rcases shorter with same | within
    · exact differ same.symm
    · have slash : '/' ∈ "assets".toList := within.subset (by simp)
      exact absurd slash (by decide)
  · rcases List.prefix_concat_iff.mp longer with same | within
    · exact differ same
    · exact not_prefix_document noSlash within

theorem mem_layout {base document : Text} {files : Keyed Bytes} {entry : Entry} :
    entry ∈ layout base document files ↔
      entry = ⟨base ++ ".html".toList, .document, document.utf8⟩ ∨
        (∃ directory ∈ directories files, entry = ⟨directory, .directory, []⟩) ∨
        ∃ file ∈ files, entry = ⟨file.1, .asset, file.2⟩ := by
  simp only [layout, List.cons_append, List.mem_cons, List.mem_append, List.mem_map]
  simp only [eq_comm]

section
variable {files : Keyed Bytes} (places : ∀ file ∈ files, IsAssetPlace file.1)
  {base document : Text} (noSlash : '/' ∉ base)
include places noSlash

theorem exists_of_blocks {file other : Entry} (mem : file ∈ layout base document files)
    (among : other ∈ layout base document files) (blocks : file.Blocks other) :
    ∃ asset ∈ files, file = ⟨asset.1, .asset, asset.2⟩ ∧
      ∃ below ∈ files, asset.1 ++ ['/'] <+: below.1 := by
  have inside : ∀ asset ∈ files, assetsDirectory <+: asset.1 := by
    intro asset there
    obtain ⟨sub, _, eq⟩ := places asset there
    exact eq ▸ List.prefix_append assetsDirectory sub
  obtain ⟨notDirectory, begins⟩ := blocks
  rcases mem_layout.mp mem with rfl | ⟨directory, _, rfl⟩ | ⟨asset, here, rfl⟩
  · rcases mem_layout.mp among with rfl | ⟨directory, there, rfl⟩ | ⟨below, there, rfl⟩
    · have := begins.length_le
      simp at this
    · have inner := (prefix_of_mem_directories places there).1
      exact absurd begins (not_prefix_of_document noSlash inner)
    · exact absurd begins (not_prefix_of_document noSlash (inside below there))
  · exact absurd rfl notDirectory
  · refine ⟨asset, here, rfl, ?_⟩
    have longer : assetsDirectory <+: asset.1 ++ ['/'] :=
      (inside asset here).trans (List.prefix_append _ _)
    rcases mem_layout.mp among with rfl | ⟨directory, there, rfl⟩ | ⟨below, there, rfl⟩
    · exact absurd (longer.trans begins) (not_prefix_document noSlash)
    · rcases (mem_directories_iff places).mp there with rfl | ⟨below, there, above⟩
      · have short := begins.length_le
        have long := (inside asset here).length_le
        rw [List.length_append] at short
        exact absurd (short.trans long) (Nat.not_succ_le_self _)
      · exact ⟨below, there, begins.trans above.leads⟩
    · exact ⟨below, there, begins⟩

omit noSlash in
theorem directory_of_prefix {asset below : Text × Bytes} (here : asset ∈ files)
    (there : below ∈ files) (begins : asset.1 ++ ['/'] <+: below.1) :
    ⟨asset.1 ++ ['/'], .directory, []⟩ ∈ layout base document files := by
  have above : IsAbove (asset.1 ++ ['/']) below.1 := by
    constructor
    case below =>
      obtain ⟨sub, _, eq⟩ := places asset here
      rw [eq, List.append_assoc]
      exact List.prefix_append _ _
    case closed => exact List.getLast?_concat
    case leads => exact begins
    case proper =>
      intro same
      exact (places below there).getLast?_ne (same ▸ List.getLast?_concat)
  exact mem_layout.mpr
    (.inr (.inl ⟨_, (mem_directories_iff places).mpr (.inr ⟨below, there, above⟩), rfl⟩))

end

theorem Holds.mem_iff {files : Keyed Bytes} {records : List Asset.Record}
    (holds : Holds files records) {path : Text} {bytes : Bytes} :
    (path, bytes) ∈ files ↔
      ∃ record ∈ records, entryPath record = .ok path ∧ record.bytes = bytes := by
  have mem := @List.Perm.mem_iff _ (Except.ok path, bytes) _ _ holds.contents
  simpa using mem

/-- A bundle can be unpacked if and only if no asset lies below another one. Otherwise there is an
asset that is in the archive as a file and as a directory. -/
theorem not_blocks_iff_not_overlaps {tree : Node} {template : Text} {library : Asset.Library}
    {base : Text} {bundle : Bundle} (made : package tree template library base = .ok bundle) :
    ((∀ file ∈ bundle.entries, ∀ other ∈ bundle.entries, ¬file.Blocks other) ↔
      ∀ record ∈ library.records, ∀ other ∈ library.records, ¬Overlaps record other) ∧
    ∀ file ∈ bundle.entries, ∀ other ∈ bundle.entries, file.Blocks other →
      file.kind = .asset ∧ ⟨file.path ++ ['/'], .directory, []⟩ ∈ bundle.entries := by
  obtain ⟨named, files, packed, rfl⟩ := package_eq_ok_iff.mp made
  have noSlash := (isBaseName_iff.mp named).2.1
  have holds := holds_files packed
  have places := holds.places
  refine ⟨⟨?_, ?_⟩, ?_⟩
  · intro free record mem other among overlaps
    have file : ∀ r ∈ library.records, ∃ file ∈ files, file.1 = assetsDirectory ++ place r := by
      intro r there
      obtain ⟨path, placed⟩ := (files_isOk_iff.mp ⟨files, packed⟩).placed r there
      exact ⟨(path, r.bytes), holds.mem_iff.mpr ⟨r, there, placed, rfl⟩,
        (entryPath_eq_ok_iff.mp placed).2⟩
    obtain ⟨asset, here, at'⟩ := file record mem
    obtain ⟨below, there, under⟩ := file other among
    refine free ⟨asset.1, .asset, asset.2⟩ (mem_layout.mpr (.inr (.inr ⟨asset, here, rfl⟩)))
      ⟨below.1, .asset, below.2⟩ (mem_layout.mpr (.inr (.inr ⟨below, there, rfl⟩)))
      ⟨by simp, ?_⟩
    change asset.1 ++ ['/'] <+: below.1
    rw [at', under, List.append_assoc, List.prefix_append_right_inj]
    exact overlaps
  · intro apart file mem other among blocks
    obtain ⟨asset, here, rfl, below, there, begins⟩ :=
      exists_of_blocks places noSlash mem among blocks
    obtain ⟨record, held, placed, _⟩ := holds.mem_iff.mp here
    obtain ⟨lower, kept, under, _⟩ := holds.mem_iff.mp there
    refine apart record held lower kept ?_
    rw [(entryPath_eq_ok_iff.mp placed).2, (entryPath_eq_ok_iff.mp under).2, List.append_assoc,
      List.prefix_append_right_inj] at begins
    exact begins
  · intro file mem other among blocks
    obtain ⟨asset, here, rfl, below, there, begins⟩ :=
      exists_of_blocks places noSlash mem among blocks
    exact ⟨rfl, directory_of_prefix places here there begins⟩

def overlapping : Asset.Library :=
  .ofList [.ofBytes ['a'] "/assets/a".toList "image/png".toList [1],
    .ofBytes ['b'] "/assets/a/b".toList "image/png".toList [2]]

theorem blocks_overlapping :
    ∃ bundle, package (.text []) ['x'] overlapping ['p'] = .ok bundle ∧
      ∃ file ∈ bundle.entries, ∃ other ∈ bundle.entries, file.Blocks other := by
  refine ⟨⟨['x'], [⟨"p.html".toList, .document, Text.utf8 ['x']⟩,
    ⟨"assets/".toList, .directory, []⟩, ⟨"assets/a/".toList, .directory, []⟩,
    ⟨"assets/a".toList, .asset, [1]⟩, ⟨"assets/a/b".toList, .asset, [2]⟩]⟩, ?_, ?_⟩
  · decide +kernel
  · exact ⟨⟨"assets/a".toList, .asset, [1]⟩, by decide, ⟨"assets/a/b".toList, .asset, [2]⟩,
      by decide, by decide⟩

theorem not_blocks_nested :
    package (.text []) "x".toList nested ['p'] = .ok ⟨"x".toList, nestedEntries⟩ ∧
      ∀ file ∈ nestedEntries, ∀ other ∈ nestedEntries, ¬file.Blocks other := by
  have packs : package (.text []) "x".toList nested ['p'] = .ok ⟨"x".toList, nestedEntries⟩ := by
    decide +kernel
  exact ⟨packs, (not_blocks_iff_not_overlaps packs).1.mpr (by decide +kernel)⟩

end Pagecraft.Bundle
