import Pagecraft.Proofs.Export.Accounting

/-! Where a file is kept. Whether it was uploaded or lies at the source does not show in a page; nor
does it in a bundle, provided that the content refers to it. -/
namespace Pagecraft

structure NamedFiles where
  files : List (Text × Bytes)
  distinct : (files.map Prod.fst).Nodup
  relative : ∀ file ∈ files, file.1.head? ≠ some '/' ∧ '\\' ∉ file.1

/-- A way to keep files: some are uploaded, and the others, and no more, lie at a source next to a
template. The source does not state any types. -/
structure Placement (named : NamedFiles) (template : Except SourceError Fetched) where
  uploaded : List (Text × Bytes)
  static : List (Text × Bytes)
  split : (uploaded ++ static).Perm named.files
  source : Source Id
  template_there : (source.fetch Source.templateName).run = template
  static_there : ∀ file ∈ static,
    (source.fetch ("assets/".toList ++ file.1)).run = .ok ⟨file.2, none⟩
  nothing_else : ∀ name, name ∉ static.map Prod.fst →
    ∃ e, (source.fetch ("assets/".toList ++ name)).run = .error e

def Placement.uploads {named : NamedFiles} {template : Except SourceError Fetched}
    (placement : Placement named template) : Asset.Library :=
  .ofList (placement.uploaded.map fun file => .ofUpload file.1 file.2)

namespace Export

theorem recordOf_eq_ofUpload {name : Text} (rooted : name.head? ≠ some '/') (turned : '\\' ∉ name)
    (bytes : Bytes) :
    Source.recordOf (Asset.pathMark ++ name) ⟨bytes, none⟩ = .ofUpload name bytes := by
  have whole : name.dropWhile (· == '/') = name := by
    cases name with
    | nil => rfl
    | cons c name =>
      apply List.dropWhile_cons_of_neg
      simpa using rooted
  have last : (Asset.pathMark ++ name).lastPiece '/' = name.lastPiece '/' :=
    Text.lastPiece_append_cons '/' "/assets".toList name
  rw [Source.recordOf, Asset.Record.ofUpload, whole, Text.swap_of_not_mem turned, last]
  rfl

def recordIn? (files : List (Text × Bytes)) (path : Text) : Option Asset.Record :=
  (files.find? fun file => Asset.pathMark ++ file.1 = path).map fun file =>
    Source.recordOf path ⟨file.2, none⟩

theorem recordIn?_append (files others : List (Text × Bytes)) (path : Text) :
    recordIn? (files ++ others) path = (recordIn? files path).or (recordIn? others path) := by
  unfold recordIn?
  rw [List.find?_append, Option.map_or]

theorem find?_eq_some {files : List (Text × Bytes)} {path : Text} {file : Text × Bytes}
    (found : files.find? (fun file => Asset.pathMark ++ file.1 = path) = some file) :
    file ∈ files ∧ Asset.pathMark ++ file.1 = path :=
  ⟨List.mem_of_find?_eq_some found, by simpa using List.find?_some found⟩

theorem find?_eq_some_iff {files : List (Text × Bytes)} (distinct : (files.map Prod.fst).Nodup)
    {path : Text} {file : Text × Bytes} :
    files.find? (fun file => Asset.pathMark ++ file.1 = path) = some file ↔
      file ∈ files ∧ Asset.pathMark ++ file.1 = path := by
  refine ⟨find?_eq_some, ?_⟩
  rintro ⟨mem, named⟩
  have some : (files.find? fun file => Asset.pathMark ++ file.1 = path).isSome :=
    List.find?_isSome.mpr ⟨file, mem, by simpa using named⟩
  obtain ⟨first, found⟩ := Option.isSome_iff_exists.mp some
  obtain ⟨among, there⟩ := find?_eq_some found
  have same : first.1 = file.1 := List.append_cancel_left (there.trans named.symm)
  rw [found, List.inj_on_of_nodup_map distinct among mem same]

theorem recordIn?_perm {files others : List (Text × Bytes)} (perm : files.Perm others)
    (distinct : (others.map Prod.fst).Nodup) (path : Text) :
    recordIn? files path = recordIn? others path := by
  have distinct' : (files.map Prod.fst).Nodup := (perm.map Prod.fst).nodup_iff.mpr distinct
  unfold recordIn?
  congr 1
  ext file
  rw [find?_eq_some_iff distinct', find?_eq_some_iff distinct, perm.mem_iff]

theorem recordIn?_of_not_isPath {files : List (Text × Bytes)} {path : Text}
    (other : ¬Asset.isPath path) : recordIn? files path = none := by
  have none : files.find? (fun file => Asset.pathMark ++ file.1 = path) = none := by
    rw [List.find?_eq_none]
    intro file _ named
    exact other (Asset.isPath_iff.mpr ⟨file.1, (of_decide_eq_true named).symm⟩)
  rw [recordIn?, none]
  rfl

section
variable {named : NamedFiles} {template : Except SourceError Fetched}
  (placement : Placement named template) (content : Node)

theorem get?_uploads (path : Text) :
    placement.uploads.get? path = recordIn? placement.uploaded path := by
  have records : placement.uploaded.map (fun file => Asset.Record.ofUpload file.1 file.2) =
      placement.uploaded.map fun file =>
        Source.recordOf (Asset.pathMark ++ file.1) ⟨file.2, none⟩ := by
    apply List.map_congr_left
    intro file mem
    have among : file ∈ named.files := placement.split.mem_iff.mp (List.mem_append_left _ mem)
    obtain ⟨rooted, turned⟩ := named.relative file among
    exact (recordOf_eq_ofUpload rooted turned file.2).symm
  rw [Placement.uploads, Asset.Library.ofList, Asset.Library.get?_extend,
    Asset.Library.get?_empty, Option.none_or, records, List.find?_map, recordIn?]
  have predicate : (fun record : Asset.Record => decide (record.path = path)) ∘
      (fun file : Text × Bytes => Source.recordOf (Asset.pathMark ++ file.1) ⟨file.2, none⟩) =
        fun file => decide (Asset.pathMark ++ file.1 = path) := rfl
  rw [predicate]
  apply Option.map_congr
  intro file found
  rw [(find?_eq_some found).2]

theorem fetched_static {path : Text} (marked : Asset.isPath path) :
    (placement.source.fetch (Asset.relative path)).run.toOption.map (Source.recordOf path) =
      recordIn? placement.static path := by
  obtain ⟨name, rfl⟩ := Asset.isPath_iff.mp marked
  rw [Asset.relative_pathMark_append, recordIn?]
  cases found : placement.static.find? fun file =>
      Asset.pathMark ++ file.1 = Asset.pathMark ++ name with
  | some file =>
    obtain ⟨mem, same⟩ := find?_eq_some found
    rw [← List.append_cancel_left same, placement.static_there file mem]
    rfl
  | none =>
    have absent : name ∉ placement.static.map Prod.fst := by
      intro mem
      obtain ⟨file, there, rfl⟩ := List.mem_map.mp mem
      simpa using List.find?_eq_none.mp found file there
    obtain ⟨e, failed⟩ := placement.nothing_else name absent
    rw [failed]
    rfl

theorem get?_gathered_placement (path : Text) :
    (gathered placement.source content placement.uploads).library.get? path =
      if path ∈ content.leaves then recordIn? named.files path
      else recordIn? placement.uploaded path := by
  have whole : recordIn? named.files path =
      (recordIn? placement.uploaded path).or (recordIn? placement.static path) := by
    rw [← recordIn?_append, recordIn?_perm placement.split named.distinct]
  rw [get?_gathered, get?_uploads, whole]
  by_cases marked : Asset.isPath path
  · rw [fetched_static placement marked]
    by_cases uploaded : (recordIn? placement.uploaded path).isSome
    · obtain ⟨record, found⟩ := Option.isSome_iff_exists.mp uploaded
      simp [found]
    · have lacking : recordIn? placement.uploaded path = none :=
        Option.not_isSome_iff_eq_none.mp uploaded
      simp [lacking, Asset.Library.mem_missingPaths, marked, Asset.Library.contains, get?_uploads]
  · simp [recordIn?_of_not_isPath marked, Asset.Library.mem_missingPaths, marked]

theorem get?_gathered_of_mem (other : Placement named template) {leaf : Text}
    (mem : leaf ∈ content.leaves) :
    (gathered placement.source content placement.uploads).library.get? leaf =
      (gathered other.source content other.uploads).library.get? leaf := by
  rw [get?_gathered_placement, get?_gathered_placement, if_pos mem, if_pos mem]

theorem rendered_placement (other : Placement named template) :
    rendered placement.source content placement.uploads =
      rendered other.source content other.uploads := by
  rw [rendered, rendered, Asset.Library.resolve_eq, Asset.Library.resolve_eq]
  apply Node.mapLeaves_congr
  intro leaf mem
  rw [get?_gathered_of_mem placement content other mem]

theorem missing_placement (other : Placement named template) :
    (gathered placement.source content placement.uploads).missing.map MissingAsset.path =
      (gathered other.source content other.uploads).missing.map MissingAsset.path := by
  rw [← missingPaths_gathered, ← missingPaths_gathered, Asset.Library.missingPaths,
    Asset.Library.missingPaths]
  congr 1
  apply List.filter_congr
  intro leaf mem
  rw [Asset.Library.contains, Asset.Library.contains,
    get?_gathered_of_mem placement content other mem]

theorem library_placement (other : Placement named template)
    (named_in_content : ∀ file ∈ named.files, Asset.pathMark ++ file.1 ∈ content.leaves) :
    (gathered placement.source content placement.uploads).library =
      (gathered other.source content other.uploads).library := by
  have foreign : ∀ (placement : Placement named template) (path : Text), path ∉ content.leaves →
      recordIn? placement.uploaded path = none := by
    intro placement path absent
    apply Option.not_isSome_iff_eq_none.mp
    intro found
    obtain ⟨record, found⟩ := Option.isSome_iff_exists.mp found
    obtain ⟨file, there, _⟩ := Option.map_eq_some_iff.mp found
    obtain ⟨mem, rfl⟩ := find?_eq_some there
    exact absent (named_in_content file (placement.split.mem_iff.mp (List.mem_append_left _ mem)))
  apply Asset.Library.ext_get?
  intro path
  by_cases mem : path ∈ content.leaves
  · exact get?_gathered_of_mem placement content other mem
  · rw [get?_gathered_placement, get?_gathered_placement, if_neg mem, if_neg mem,
      foreign placement path mem, foreign other path mem]

end

/-- Two placements of the same files give the same page, with the same assets unresolved. They give
the same bundle, or fail with the same error, if the content refers to every file. -/
theorem exports_placement {named : NamedFiles} {template : Except SourceError Fetched}
    (placement other : Placement named template) (stamp stamp' : Stamp) (content : Node) :
    ((page placement.source stamp content placement.uploads).run.map fun exported =>
        (exported.product, exported.report.unresolved.map MissingAsset.path)) =
      ((page other.source stamp' content other.uploads).run.map fun exported =>
        (exported.product, exported.report.unresolved.map MissingAsset.path)) ∧
    ((∀ file ∈ named.files, Asset.pathMark ++ file.1 ∈ content.leaves) → ∀ base,
      ((bundle placement.source stamp content placement.uploads base).run.map fun exported =>
        (exported.product, exported.report.entries, exported.report.documentDigest,
          exported.report.unresolved.map MissingAsset.path)) =
      ((bundle other.source stamp' content other.uploads base).run.map fun exported =>
        (exported.product, exported.report.entries, exported.report.documentDigest,
          exported.report.unresolved.map MissingAsset.path))) := by
  have loaded : placement.source.template.run = other.source.template.run := by
    rw [Source.template_run, Source.template_run, placement.template_there, other.template_there]
  have missing := missing_placement placement content other
  constructor
  · have tree := rendered_placement placement content other
    rw [page_run, page_run, loaded]
    cases other.source.template.run with
    | error cause => rfl
    | ok template =>
      have product : Template.render template
          ((gathered placement.source content placement.uploads).library.resolve content) =
          Template.render template
            ((gathered other.source content other.uploads).library.resolve content) :=
        congrArg (Template.render template) tree
      exact congrArg Except.ok (Prod.ext product missing)
  · intro referenced base
    have library := library_placement placement content other referenced
    rw [bundle_run, bundle_run, loaded]
    cases other.source.template.run with
    | error cause => rfl
    | ok template =>
      simp only [bundleOf, library]
      cases Bundle.package content template
          (gathered other.source content other.uploads).library base with
      | error cause => rfl
      | ok packed =>
        exact congrArg (fun paths =>
          Except.ok (packed, packed.entries, Sha256.hex packed.document.utf8, paths)) missing

def placed {named : NamedFiles} (template : Except SourceError Fetched)
    (uploaded static : List (Text × Bytes)) (split : (uploaded ++ static).Perm named.files) :
    Placement named template where
  uploaded := uploaded
  static := static
  split := split
  source := ⟨[], fun path => pure <|
    if path = Source.templateName then template
    else match static.find? fun file => Asset.pathMark ++ file.1 = '/' :: path with
      | some file => .ok ⟨file.2, none⟩
      | none => .error (.notFound path)⟩
  template_there := rfl
  static_there file mem := by
    have distinct : (static.map Prod.fst).Nodup :=
      ((split.map Prod.fst).nodup_iff.mpr named.distinct).sublist
        ((List.sublist_append_right uploaded static).map Prod.fst)
    have found : static.find? (fun other =>
        Asset.pathMark ++ other.1 = '/' :: ("assets/".toList ++ file.1)) = some file :=
      (find?_eq_some_iff distinct).mpr ⟨mem, rfl⟩
    have other : "assets/".toList ++ file.1 ≠ Source.templateName := nofun
    rw [Id.run_pure, if_neg other, found]
  nothing_else name absent := by
    have none : static.find? (fun file =>
        Asset.pathMark ++ file.1 = '/' :: ("assets/".toList ++ name)) = none := by
      rw [List.find?_eq_none]
      intro file mem same
      have same : file.1 = name := List.append_cancel_left (of_decide_eq_true same)
      exact absent (same ▸ List.mem_map_of_mem mem)
    have other : "assets/".toList ++ name ≠ Source.templateName := nofun
    rw [Id.run_pure, if_neg other, none]
    exact ⟨_, rfl⟩

def twoFiles : NamedFiles where
  files := [("a.png".toList, [1]), ("b/c.svg".toList, [2])]
  distinct := by decide
  relative := by decide

def bothFiles : Node :=
  .list [.text "/assets/b/c.svg".toList, .text "/assets/a.png".toList, .text "/assets/d".toList]

def firstUploaded : Placement twoFiles (.ok ⟨Text.utf8 ['p'], none⟩) :=
  placed _ [("a.png".toList, [1])] [("b/c.svg".toList, [2])] (.refl _)

def firstStatic : Placement twoFiles (.ok ⟨Text.utf8 ['p'], none⟩) :=
  placed _ [("b/c.svg".toList, [2])] [("a.png".toList, [1])] (.swap _ _ _)

theorem exports_placement_swapped :
    (∀ file ∈ twoFiles.files, Asset.pathMark ++ file.1 ∈ bothFiles.leaves) ∧
    ((page firstUploaded.source ⟨[], .epoch⟩ bothFiles firstUploaded.uploads).run.map
        fun exported => (exported.product, exported.report.unresolved.map MissingAsset.path)) =
      ((page firstStatic.source ⟨[], .epoch⟩ bothFiles firstStatic.uploads).run.map
        fun exported => (exported.product, exported.report.unresolved.map MissingAsset.path)) ∧
    ∃ exported, (bundle firstUploaded.source ⟨[], .epoch⟩ bothFiles firstUploaded.uploads
        ['p']).run = .ok exported ∧
      ∃ exported', (bundle firstStatic.source ⟨[], .epoch⟩ bothFiles firstStatic.uploads
          ['p']).run = .ok exported' ∧
        exported.product = exported'.product := by
  have referenced : ∀ file ∈ twoFiles.files,
      Asset.pathMark ++ file.1 ∈ bothFiles.leaves := by decide +kernel
  obtain ⟨pages, bundles⟩ :=
    exports_placement firstUploaded firstStatic ⟨[], .epoch⟩ ⟨[], .epoch⟩ bothFiles
  have made : (Bundle.files
      (gathered firstUploaded.source bothFiles firstUploaded.uploads).library).isOk := by
    decide +kernel
  obtain ⟨packed, packs⟩ := @Bundle.exists_package _ ['p'] rfl made bothFiles ['p']
  have ran := (bundle_run_eq_ok_iff _ bothFiles firstUploaded.uploads ⟨[], .epoch⟩ ['p']).mpr
    ⟨['p'], packed, Source.template_run_of_utf8 rfl, packs, rfl⟩
  have same := bundles referenced ['p']
  rw [ran] at same
  cases ran' : (bundle firstStatic.source ⟨[], .epoch⟩ bothFiles firstStatic.uploads ['p']).run with
  | error e =>
    rw [ran'] at same
    cases same
  | ok exported' =>
    rw [ran'] at same
    exact ⟨referenced, pages, _, ran, exported', rfl, congrArg Prod.fst (Except.ok.inj same)⟩

end Export
end Pagecraft
