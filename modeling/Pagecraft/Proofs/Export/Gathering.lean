import Pagecraft.Export.Page
import Pagecraft.Proofs.Asset.Resolution
import Pagecraft.Proofs.Bundle.Files
import Pagecraft.Proofs.Source.Fetching

/-! What an export gathers by a source that answers alike every time, and that the export is a
function of the template and of what was gathered. -/
namespace Pagecraft

namespace Source

def usable : Except SourceError Fetched → Except SourceError Text
  | .error e => .error e
  | .ok fetched =>
    match Text.ofUtf8? fetched.bytes with
    | some text => .ok text
    | none => .error .templateNotUtf8

theorem usable_eq_ok_iff {answer : Except SourceError Fetched} {text : Text} :
    usable answer = .ok text ↔ ∃ contentType, answer = .ok ⟨text.utf8, contentType⟩ := by
  constructor
  · intro read
    cases answer with
    | error e => cases read
    | ok fetched =>
      obtain ⟨bytes, contentType⟩ := fetched
      simp only [usable] at read
      split at read
      · case h_1 t decoded =>
        cases read
        rw [Text.eq_utf8_of_ofUtf8? decoded]
        exact ⟨contentType, rfl⟩
      · cases read
  · rintro ⟨contentType, rfl⟩
    simp [usable]

theorem usable_eq_error_iff {answer : Except SourceError Fetched} {cause : SourceError} :
    usable answer = .error cause ↔ answer = .error cause ∨ cause = .templateNotUtf8 ∧
      ∃ fetched, answer = .ok fetched ∧ ∀ t : Text, t.utf8 ≠ fetched.bytes := by
  cases answer with
  | error e => simp [usable]
  | ok fetched =>
    simp only [usable, reduceCtorEq, Except.ok.injEq, exists_eq_left', false_or,
      ← Text.ofUtf8?_eq_none_iff]
    cases Text.ofUtf8? fetched.bytes <;> simp [eq_comm]

section
variable {m : Type → Type} [Monad m] [LawfulMonad m] (source : Source m)

theorem template_eq : source.template = usable <$> source.fetch templateName := by
  rw [template, map_eq_pure_bind]
  congr 1
  funext answer
  cases answer with
  | error e => rfl
  | ok fetched => cases text : Text.ofUtf8? fetched.bytes <;> simp [usable, text]

end

theorem template_run (source : Source Id) :
    source.template.run = usable (source.fetch templateName).run := by
  rw [template_eq, Id.run_map]

theorem template_run_of_utf8 {source : Source Id} {text : Text} {contentType : Option Text}
    (h : (source.fetch templateName).run = .ok ⟨text.utf8, contentType⟩) :
    source.template.run = .ok text := by
  rw [template_run, h, usable_eq_ok_iff]
  exact ⟨contentType, rfl⟩

theorem template_run_eq_error_iff {source : Source Id} :
    (∃ cause, source.template.run = .error cause) ↔
      (∃ cause, (source.fetch templateName).run = .error cause) ∨
        ∃ fetched, (source.fetch templateName).run = .ok fetched ∧
          ∀ t : Text, t.utf8 ≠ fetched.bytes := by
  simp only [template_run, usable_eq_error_iff, exists_or, exists_and_right, exists_eq, true_and]

end Source

namespace Export

def gatheredFrom (library : Asset.Library) (asked : Answers) : Gathered :=
  ⟨library.extend (Source.sorted asked).1, library.size, (Source.sorted asked).1.length,
    (Source.sorted asked).2⟩

theorem gather_eq_ask {m : Type → Type} [Monad m] [LawfulMonad m] (source : Source m)
    (content : Node) (library : Asset.Library) : gather source content library =
      gatheredFrom library <$> source.ask (library.missingPaths content) := by
  rw [gather, Source.fetchAssets_eq_ask, bind_map_left, map_eq_pure_bind]
  rfl

theorem get?_gatheredFrom {asked : Answers} (once : (Keyed.keys asked).Nodup)
    (library : Asset.Library) (path : Text) :
    (gatheredFrom library asked).library.get? path =
      (library.get? path).or (Source.answered? asked path) := by
  rw [gatheredFrom, Asset.Library.get?_extend, Source.find?_sorted once]

/-- What is gathered for some content besides the uploads. -/
def gathered (source : Source Id) (content : Node) (uploads : Asset.Library) : Gathered :=
  (gather source content uploads).run

section
variable (source : Source Id) (content : Node) (uploads : Asset.Library)

theorem gathered_eq :
    gathered source content uploads =
      ⟨uploads.extend (source.results (uploads.missingPaths content)).1, uploads.size,
        (source.results (uploads.missingPaths content)).1.length,
        (source.results (uploads.missingPaths content)).2⟩ := by
  rw [gathered, gather]
  simp only [Id.run_bind, Source.fetchAssets_run]
  rfl

theorem get?_gathered (path : Text) :
    (gathered source content uploads).library.get? path =
      (uploads.get? path).or
        (if path ∈ uploads.missingPaths content then
          (source.fetch (Asset.relative path)).run.toOption.map (Source.recordOf path)
        else none) := by
  have answers : gathered source content uploads =
      gatheredFrom uploads ((uploads.missingPaths content).map fun path =>
        (path, (source.fetch (Asset.relative path)).run)) := by
    rw [gathered_eq, Source.results_eq]
    rfl
  have once : (Keyed.keys ((uploads.missingPaths content).map fun path =>
      (path, (source.fetch (Asset.relative path)).run))).Nodup := by
    rw [Keyed.keys_map_self]
    exact Asset.Library.nodup_missingPaths uploads content
  rw [answers, get?_gatheredFrom once, Source.answered?, Keyed.get?_map_self]
  split <;> rfl

theorem contains_gathered {leaf : Text} (mem : leaf ∈ content.leaves) (path : Asset.isPath leaf) :
    (gathered source content uploads).library.contains leaf =
      (uploads.contains leaf || source.has leaf) := by
  rw [gathered_eq, Bool.eq_iff_iff, Asset.Library.contains_extend,
    (Source.map_path_results source _).1, List.mem_filter, Asset.Library.mem_missingPaths,
    Bool.or_eq_true]
  cases uploads.contains leaf <;> simp [mem, path]

theorem missingPaths_gathered :
    (gathered source content uploads).library.missingPaths content =
      (gathered source content uploads).missing.map MissingAsset.path := by
  have missing : (gathered source content uploads).missing.map MissingAsset.path =
      (uploads.missingPaths content).filter fun path => !source.has path := by
    rw [gathered_eq]
    exact (Source.map_path_results source _).2
  rw [missing, Asset.Library.missingPaths, Asset.Library.missingPaths, ← eraseDups_filter,
    List.filter_filter]
  congr 1
  refine List.filter_congr fun leaf mem => ?_
  cases path : Asset.isPath leaf with
  | false => simp
  | true =>
    rw [contains_gathered source content uploads mem path]
    cases uploads.contains leaf <;> simp

theorem nodup_path_results :
    ((source.results (uploads.missingPaths content)).1.map Asset.Record.path).Nodup := by
  rw [(Source.map_path_results source _).1]
  exact (Asset.Library.nodup_missingPaths uploads content).filter _

theorem perm_gathered : (gathered source content uploads).library.records.Perm
    ((source.results (uploads.missingPaths content)).1 ++ uploads.records) := by
  rw [gathered_eq]
  apply Asset.Library.perm_extend (nodup_path_results source content uploads)
  intro path mem
  rw [(Source.map_path_results source _).1] at mem
  exact (Asset.Library.mem_missingPaths.mp (List.mem_filter.mp mem).1).2.2

theorem size_gathered :
    (gathered source content uploads).library.size =
      uploads.size + (gathered source content uploads).fetched := by
  have records := (perm_gathered source content uploads).length_eq
  rw [List.length_append, Nat.add_comm] at records
  rw [Asset.Library.size, records, gathered_eq]
  rfl

theorem fetched_add_length_missing :
    (gathered source content uploads).fetched + (gathered source content uploads).missing.length =
      (uploads.missingPaths content).length := by
  rw [gathered_eq]
  exact Source.length_results source _

/-! The page and the bundle -/

theorem page_run (stamp : Stamp) :
    (page source stamp content uploads).run =
      match source.template.run with
      | .error cause => .error (.template cause)
      | .ok template =>
        .ok (pageOf source.root stamp content template (gathered source content uploads)) := by
  simp only [page, Id.run_bind]
  cases source.template.run <;> rfl

theorem page_run_eq_ok_iff (stamp : Stamp) {exported : Exported Text} :
    (page source stamp content uploads).run = .ok exported ↔
      ∃ template, source.template.run = .ok template ∧
        exported = pageOf source.root stamp content template (gathered source content uploads) := by
  rw [page_run]
  cases source.template.run <;> simp [eq_comm]

theorem bundle_run (stamp : Stamp) (base : Text) :
    (bundle source stamp content uploads base).run =
      match source.template.run with
      | .error cause => .error (.template cause)
      | .ok template =>
        bundleOf source.root stamp content template (gathered source content uploads) base := by
  simp only [bundle, Id.run_bind]
  cases source.template.run <;> rfl

theorem bundle_run_eq_ok_iff (stamp : Stamp) (base : Text) {exported : Exported Bundle} :
    (bundle source stamp content uploads base).run = .ok exported ↔
      ∃ template bundle, source.template.run = .ok template ∧
        Bundle.package content template (gathered source content uploads).library base =
          .ok bundle ∧
        exported = ⟨bundle, report source.root stamp .bundle content bundle.document bundle.entries
          (gathered source content uploads)⟩ := by
  rw [bundle_run]
  cases source.template.run with
  | error cause => simp
  | ok template =>
    simp only [bundleOf, Except.bind_eq_ok_iff, Except.mapError_eq_ok_iff, Except.ok.injEq,
      exists_and_left, exists_eq_left']
    exact exists_congr fun _ => and_congr_right fun _ =>
      ⟨fun eq => (Except.ok.inj eq).symm, fun eq => congrArg Except.ok eq.symm⟩

end

end Export
end Pagecraft
