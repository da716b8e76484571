import Pagecraft.Proofs.Bundle.Document
import Pagecraft.Proofs.Export.Accounting

/-! The document of a bundle and the single file of the same content. They differ in nothing but
the paths of what could not be had. -/
namespace Pagecraft.Export

theorem page_of_bundle {source : Source Id} {stamp : Stamp} {content : Node}
    {uploads : Asset.Library} {base : Text} {exported : Exported Bundle}
    (ran : (bundle source stamp content uploads base).run = .ok exported)
    (complete : exported.report.unresolved = []) (stamp' : Stamp) :
    ∃ paged, (page source stamp' content uploads).run = .ok paged ∧
      exported.product.document = paged.product ∧
      exported.report.documentDigest = paged.report.documentDigest := by
  obtain ⟨template, packed, loaded, packs, rfl⟩ :=
    (bundle_run_eq_ok_iff source content uploads stamp base).mp ran
  have lacking : (gathered source content uploads).library.missingPaths content = [] := by
    rw [missingPaths_gathered]
    exact congrArg (List.map MissingAsset.path) complete
  have same : packed.document = Template.render template (rendered source content uploads) := by
    rw [Bundle.document_of_package packs,
      Bundle.pageData_eq_resolve (Asset.Library.missingPaths_eq_nil_iff.mp lacking), rendered]
  refine ⟨_, (page_run_eq_ok_iff source content uploads stamp').mpr ⟨template, loaded, rfl⟩,
    same, ?_⟩
  exact congrArg (fun document : Text => Sha256.hex document.utf8) same

/-- The document of a bundle is rendered from the content with every asset that there is inline
and no asset path left. It is that of a single file if there are all assets. -/
theorem documents_agree :
    (∀ (tree : Node) (template : Text) (library : Asset.Library) (base : Text) (packed : Bundle),
      Bundle.package tree template library base = .ok packed →
      ∃ data : Node, packed.document = Template.render template data ∧
        data.shape = tree.shape ∧ data.leaves = tree.leaves.map library.shown ∧
        (∀ leaf ∈ data.leaves, ¬Asset.isPath leaf) ∧
        ((∀ leaf ∈ tree.leaves, Asset.isPath leaf → library.contains leaf) →
          packed.document = Template.render template (library.resolve tree))) ∧
    ∀ (source : Source Id) (stamp stamp' : Stamp) (content : Node) (uploads : Asset.Library)
      (base : Text) (exported : Exported Bundle),
      (bundle source stamp content uploads base).run = .ok exported →
      exported.report.unresolved = [] →
      ∃ paged, (page source stamp' content uploads).run = .ok paged ∧
        exported.product.document = paged.product ∧
        exported.report.documentDigest = paged.report.documentDigest := by
  constructor
  · intro tree template library base packed packs
    have document := Bundle.document_of_package packs
    refine ⟨Bundle.pageData library tree, document, Bundle.shape_pageData library tree,
      Bundle.leaves_pageData library tree, ?_, ?_⟩
    · intro leaf mem
      exact Bundle.not_isPath_of_mem_leaves_pageData mem
    · intro covered
      rw [document, Bundle.pageData_eq_resolve covered]
  · intro source stamp stamp' content uploads base exported ran complete
    exact page_of_bundle ran complete stamp'

def twoPictures : Node :=
  .list [.text "/assets/a.png".toList, .text "/assets/c.png".toList]

theorem documents_agree_pictures :
    (∃ packed data, Bundle.package threePictures ['p'] thirdPicture ['p'] = .ok packed ∧
      packed.document = Template.render ['p'] data ∧
      data.leaves = ["assets/a.png".toList, "assets/b.png".toList,
        "data:image/png;base64,BA==".toList, "assets/b.png".toList]) ∧
    ∃ exported paged,
      (bundle onePicture ⟨[], .epoch⟩ twoPictures thirdPicture ['p']).run = .ok exported ∧
      (page onePicture ⟨[], .epoch⟩ twoPictures thirdPicture).run = .ok paged ∧
      exported.report.documentDigest = paged.report.documentDigest := by
  obtain ⟨packages, exports⟩ := documents_agree
  constructor
  · have made : (Bundle.files thirdPicture).isOk := by decide +kernel
    obtain ⟨packed, packs⟩ := @Bundle.exists_package _ ['p'] rfl made threePictures ['p']
    obtain ⟨data, document, _, leaves, _⟩ := packages _ _ _ _ _ packs
    refine ⟨packed, data, packs, document, ?_⟩
    rw [leaves]
    decide +kernel
  · have made : (Bundle.files (gathered onePicture twoPictures thirdPicture).library).isOk := by
      decide +kernel
    have complete : (gathered onePicture twoPictures thirdPicture).missing = [] := by
      decide +kernel
    obtain ⟨packed, packs⟩ := @Bundle.exists_package _ ['p'] rfl made twoPictures ['p']
    have ran := (bundle_run_eq_ok_iff onePicture twoPictures thirdPicture ⟨[], .epoch⟩ ['p']).mpr
      ⟨['p'], packed, Source.template_run_of_utf8 rfl, packs, rfl⟩
    obtain ⟨paged, made, _, digests⟩ := exports _ _ ⟨[], .epoch⟩ _ _ _ _ ran complete
    exact ⟨_, paged, ran, made, digests⟩

end Pagecraft.Export
