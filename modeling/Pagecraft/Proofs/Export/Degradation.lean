import Pagecraft.Proofs.Bundle.Outcome
import Pagecraft.Proofs.Export.Accounting

/-! Which static assets stop a bundle. What the source does not have is left out; what it has goes
into the archive, and an export fails if that cannot be done. -/
namespace Pagecraft

namespace Source

theorem mem_results (source : Source Id) {paths : List Text} {record : Asset.Record} :
    record ∈ (source.results paths).1 ↔ ∃ path ∈ paths, ∃ fetched,
      (source.fetch (Asset.relative path)).run = .ok fetched ∧ record = recordOf path fetched := by
  induction paths with
  | nil => simp [results, sortOut]
  | cons path paths ih =>
    simp only [results] at ih
    simp only [results, List.map_cons, List.exists_mem_cons_iff, ← ih, fetchAsset_run source path]
    cases (source.fetch (Asset.relative path)).run <;> simp [sortOut, settle]

end Source

namespace Export

/-- That what was fetched for an asset path can be a file of a bundle besides the uploads. -/
structure Usable (uploads : Asset.Library) (path : Text) (fetched : Fetched) : Prop where
  safe : Bundle.isSafe (path.drop Asset.pathMark.length)
  commaFree : ',' ∉ (Source.recordOf path fetched).mediaType
  free : ∀ record ∈ uploads.records, Bundle.entryPath record ≠ .ok (Asset.relative path)

theorem entryPath_recordOf {path : Text} (marked : Asset.isPath path) (fetched : Fetched) :
    Bundle.entryPath (Source.recordOf path fetched) =
      if Bundle.isSafe (path.drop Asset.pathMark.length) then .ok (Asset.relative path)
      else .error (.unsafePath path) := by
  obtain ⟨sub, rfl⟩ := Asset.isPath_iff.mp marked
  have place : Bundle.place (Source.recordOf (Asset.pathMark ++ sub) fetched) = sub := by
    have named : Text.dropMark? Asset.pathMark (Asset.pathMark ++ sub) = some sub :=
      Text.dropMark?_eq_some_iff.mpr rfl
    exact congrArg (Option.getD · _) named
  rw [Bundle.entryPath_eq, place, List.drop_left, Asset.relative_pathMark_append]
  rfl

theorem usable_iff {uploads : Asset.Library} {path : Text} (marked : Asset.isPath path)
    (fetched : Fetched) :
    Usable uploads path fetched ↔
      (∃ place, Bundle.entryPath (Source.recordOf path fetched) = .ok place) ∧
        ',' ∉ (Source.recordOf path fetched).mediaType ∧ ∀ other ∈ uploads.records,
          Bundle.entryPath other ≠ Bundle.entryPath (Source.recordOf path fetched) := by
  rw [entryPath_recordOf marked]
  by_cases safe : Bundle.isSafe (path.drop Asset.pathMark.length)
  · rw [if_pos safe]
    constructor
    · intro usable
      exact ⟨⟨_, rfl⟩, usable.commaFree, usable.free⟩
    · rintro ⟨_, commaFree, free⟩
      exact ⟨safe, commaFree, free⟩
  · rw [if_neg safe]
    constructor
    · intro usable
      exact absurd usable.safe safe
    · rintro ⟨⟨place, placed⟩, _⟩
      cases placed

section
variable (source : Source Id) (content : Node) (uploads : Asset.Library)

theorem packable_gathered_iff (packable : Bundle.Packable uploads.records) :
    Bundle.Packable (gathered source content uploads).library.records ↔
      ∀ path ∈ uploads.missingPaths content, ∀ fetched,
        (source.fetch (Asset.relative path)).run = .ok fetched → Usable uploads path fetched := by
  have missing : ∀ path ∈ uploads.missingPaths content, Asset.isPath path := by
    intro path mem
    exact (Asset.Library.mem_missingPaths.mp mem).2.1
  have marked : ∀ record ∈ (source.results (uploads.missingPaths content)).1,
      Asset.isPath record.path := by
    intro record mem
    obtain ⟨path, among, fetched, _, rfl⟩ := source.mem_results.mp mem
    exact missing path among
  rw [Bundle.packable_congr (perm_gathered source content uploads),
    Bundle.packable_append_iff marked (nodup_path_results source content uploads) packable]
  constructor
  · intro each path mem fetched answer
    exact (usable_iff (missing path mem) fetched).mpr
      (each _ (source.mem_results.mpr ⟨path, mem, fetched, answer, rfl⟩))
  · intro each record mem
    obtain ⟨path, among, fetched, answer, rfl⟩ := source.mem_results.mp mem
    exact (usable_iff (missing path among) fetched).mp (each path among fetched answer)

theorem bundle_isOk_iff (stamp : Stamp) (base template : Text)
    (loaded : source.template.run = .ok template) :
    (∃ bundled, (bundle source stamp content uploads base).run = .ok bundled) ↔
      Bundle.isBaseName base ∧
        Bundle.Packable (gathered source content uploads).library.records := by
  rw [← Bundle.package_isOk_iff content template]
  constructor
  · rintro ⟨bundled, ran⟩
    obtain ⟨_, packed, found, packs, _⟩ :=
      (bundle_run_eq_ok_iff source content uploads stamp base).mp ran
    obtain rfl := Except.ok.inj (found.symm.trans loaded)
    exact ⟨packed, packs⟩
  · rintro ⟨packed, packs⟩
    exact ⟨_, (bundle_run_eq_ok_iff source content uploads stamp base).mpr
      ⟨template, packed, loaded, packs, rfl⟩⟩

theorem bundle_run_eq_error_iff (stamp : Stamp) (base template : Text)
    (loaded : source.template.run = .ok template) {e : ExportError} :
    (bundle source stamp content uploads base).run = .error e ↔ ∃ cause, e = .archive cause ∧
      Bundle.package content template (gathered source content uploads).library base =
        .error cause := by
  rw [bundle_run, loaded]
  cases packs : Bundle.package content template (gathered source content uploads).library base <;>
    simp [bundleOf, packs, Except.mapError, bind, Except.bind, pure, Except.pure, eq_comm]

end

/-- Where there is a page, and the uploads can be packed, a bundle succeeds if and only if every
static asset that the source has can be used. If not, it fails at the first of the records with
which something is wrong. What the source does not have is no reason to fail. -/
theorem bundle_ok_iff_usable (source : Source Id) (stamp stamp' : Stamp) (content : Node)
    (uploads : Asset.Library) (base : Text) {paged : Exported Text}
    (page_ok : (page source stamp content uploads).run = .ok paged)
    {tree : Node} {template : Text} {packed : Bundle}
    (alone : Bundle.package tree template uploads base = .ok packed) :
    ((∃ bundled, (bundle source stamp' content uploads base).run = .ok bundled) ↔
      ∀ path ∈ content.leaves, Asset.isPath path → ¬uploads.contains path → ∀ fetched,
        (source.fetch (Asset.relative path)).run = .ok fetched → Usable uploads path fetched) ∧
    ∀ e, (bundle source stamp' content uploads base).run = .error e →
      ∃ cause front record back, e = .archive cause ∧
        (gathered source content uploads).library.records = front ++ record :: back ∧
        Bundle.Packable front ∧ Bundle.Offends front record cause := by
  obtain ⟨loaded, loads, _⟩ := (page_run_eq_ok_iff source content uploads stamp).mp page_ok
  obtain ⟨named, packable⟩ := (Bundle.package_isOk_iff tree template).mp ⟨packed, alone⟩
  constructor
  · have each := packable_gathered_iff source content uploads packable
    simp only [Asset.Library.mem_missingPaths, and_imp] at each
    rw [bundle_isOk_iff source content uploads stamp' base loaded loads, each,
      and_iff_right named]
  · intro e failed
    obtain ⟨cause, rfl, fails⟩ := (bundle_run_eq_error_iff source content uploads stamp' base
      loaded loads).mp failed
    rw [Bundle.package_eq_error_iff, Bundle.files_eq_error_iff] at fails
    rcases fails with ⟨unnamed, _⟩ | ⟨_, front, record, back, eq, first, offends⟩
    · exact absurd named unnamed
    · exact ⟨cause, front, record, back, rfl, eq, first, offends⟩

/-- A source that holds a template and, under a path with a segment that means the same directory,
a picture. -/
def dottedPicture : Source Id where
  root := ['.']
  fetch path := pure <|
    if path = Source.templateName then .ok ⟨Text.utf8 ['p'], none⟩
    else if path = "assets/./a.png".toList then .ok ⟨[1], none⟩
    else .error (.notFound path)

def dotted : Node := .text "/assets/./a.png".toList

theorem bundle_dottedPicture :
    (∃ paged, (page dottedPicture ⟨[], .epoch⟩ dotted .empty).run = .ok paged) ∧
    (∃ packed, Bundle.package dotted ['p'] .empty (Bundle.baseName ['x']) = .ok packed) ∧
    (¬∃ bundled, (bundle dottedPicture ⟨[], .epoch⟩ dotted .empty (Bundle.baseName ['x'])).run =
      .ok bundled) ∧
    (bundle dottedPicture ⟨[], .epoch⟩ dotted .empty (Bundle.baseName ['x'])).run =
      .error (.archive (.unsafePath "/assets/./a.png".toList)) := by
  have template : dottedPicture.template.run = .ok ['p'] := Source.template_run_of_utf8 rfl
  have failed : (bundle dottedPicture ⟨[], .epoch⟩ dotted .empty (Bundle.baseName ['x'])).run =
      .error (.archive (.unsafePath "/assets/./a.png".toList)) := by
    rw [bundle_run_eq_error_iff _ _ _ _ _ _ template]
    refine ⟨_, rfl, ?_⟩
    rw [Bundle.package_eq_error_iff]
    exact .inr ⟨by decide, by decide +kernel⟩
  refine ⟨?_, ?_, ?_, failed⟩
  · exact ⟨_, (page_run_eq_ok_iff _ _ _ _).mpr ⟨_, template, rfl⟩⟩
  · exact Bundle.exists_package (by decide) (by decide +kernel) dotted ['p']
  · rintro ⟨bundled, ran⟩
    rw [failed] at ran
    cases ran

theorem bundle_ok_onePicture :
    ∃ bundled, (bundle onePicture ⟨[], .epoch⟩ threePictures thirdPicture ['p']).run =
      .ok bundled := by
  have template : onePicture.template.run = .ok ['p'] := Source.template_run_of_utf8 rfl
  have paged := (page_run_eq_ok_iff onePicture threePictures thirdPicture ⟨[], .epoch⟩).mpr
    ⟨['p'], template, rfl⟩
  have made : (Bundle.files thirdPicture).isOk := by decide +kernel
  obtain ⟨packed, alone⟩ := @Bundle.exists_package _ ['p'] rfl made (.text []) ['p']
  apply (bundle_ok_iff_usable onePicture ⟨[], .epoch⟩ ⟨[], .epoch⟩ threePictures thirdPicture ['p']
    paged alone).1.mpr
  have answers : ∀ path ∈ threePictures.leaves, ¬thirdPicture.contains path →
      path = "/assets/a.png".toList ∨ path = "/assets/b.png".toList := by
    decide +kernel
  intro path mem _ fresh fetched answer
  rcases answers path mem fresh with rfl | rfl
  · obtain rfl : fetched = ⟨[1, 2, 3], none⟩ := (Except.ok.inj answer).symm
    constructor
    case safe => decide
    case commaFree => decide +kernel
    case free => decide +kernel
  · cases answer

end Export
end Pagecraft
