import Pagecraft.Proofs.Export.Gathering

/-! The account that a report gives of assets. Every asset path of the content that was not
uploaded is either counted as fetched or listed as unresolved, and what is listed is what the
rendered page still shows as a path. -/
namespace Pagecraft

/-- That a report accounts for the assets of some content, of which a tree was rendered. -/
structure Report.Accounts (report : Report) (content rendered : Node) (uploads : Asset.Library) :
    Prop where
  unresolved : report.unresolved.map MissingAsset.path =
    Asset.Library.empty.missingPaths rendered
  once : (report.unresolved.map MissingAsset.path).Nodup
  listed : ∀ leaf, leaf ∈ report.unresolved.map MissingAsset.path ↔
    leaf ∈ rendered.leaves ∧ Asset.isPath leaf
  total : report.staticAssets + report.unresolved.length = (uploads.missingPaths content).length
  uploaded : report.uploadedAssets = uploads.size

namespace Export
section
variable (source : Source Id) (content : Node) (uploads : Asset.Library)

def rendered : Node := (gathered source content uploads).library.resolve content

theorem missingPaths_rendered :
    Asset.Library.empty.missingPaths (rendered source content uploads) =
      (gathered source content uploads).missing.map MissingAsset.path := by
  rw [rendered, Asset.Library.empty_missingPaths_resolve, missingPaths_gathered]

theorem accounts_report (root : Text) (stamp : Stamp) (mode : Report.Mode) (document : Text)
    (entries : List Bundle.Entry) :
    (report root stamp mode content document entries (gathered source content uploads)).Accounts
      content (rendered source content uploads) uploads where
  unresolved := (missingPaths_rendered source content uploads).symm
  once := by
    have := Asset.Library.nodup_missingPaths .empty (rendered source content uploads)
    rwa [missingPaths_rendered] at this
  listed leaf := by
    have := @Asset.Library.mem_missingPaths .empty (rendered source content uploads) leaf
    rw [missingPaths_rendered] at this
    simpa [report, Report.sealed] using this
  total := fetched_add_length_missing source content uploads
  uploaded := congrArg Gathered.uploaded (gathered_eq source content uploads)

end

/-- An export that lacks assets goes on without them. Only a page without a template fails; the
report of any other, and of any bundle, accounts for all its assets. -/
theorem exports_account (source : Source Id) (stamp : Stamp) (content : Node)
    (uploads : Asset.Library) :
    ((∃ cause, (page source stamp content uploads).run = .error cause) ↔
      (∃ cause, (source.fetch Source.templateName).run = .error cause) ∨
        ∃ fetched, (source.fetch Source.templateName).run = .ok fetched ∧
          ∀ t : Text, t.utf8 ≠ fetched.bytes) ∧
    (∀ exported, (page source stamp content uploads).run = .ok exported →
      (∃ template, source.template.run = .ok template ∧
        exported.product = Template.render template (rendered source content uploads)) ∧
      exported.report.Accounts content (rendered source content uploads) uploads) ∧
    ∀ base exported, (bundle source stamp content uploads base).run = .ok exported →
      exported.report.Accounts content (rendered source content uploads) uploads ∧
      (exported.report.entries.filter fun entry => entry.kind = .asset).length =
        exported.report.uploadedAssets + exported.report.staticAssets ∧
      (exported.report.entries.filter fun entry => entry.kind = .document).map
        Bundle.Entry.digest = [exported.report.documentDigest] := by
  refine ⟨?_, ?_, ?_⟩
  case refine_1 =>
    rw [← Source.template_run_eq_error_iff, page_run]
    cases source.template.run <;> simp
  case refine_2 =>
    intro exported ran
    obtain ⟨template, loaded, rfl⟩ := (page_run_eq_ok_iff source content uploads stamp).mp ran
    exact ⟨⟨template, loaded, rfl⟩, accounts_report source content uploads _ _ _ _ _⟩
  case refine_3 =>
    intro base exported ran
    obtain ⟨template, bundle, _, packed, rfl⟩ :=
      (bundle_run_eq_ok_iff source content uploads stamp base).mp ran
    have accounts := accounts_report source content uploads source.root stamp .bundle
      bundle.document bundle.entries
    refine ⟨accounts, ?_, Bundle.digest_document packed⟩
    calc (bundle.entries.filter fun entry => entry.kind = .asset).length
        = (gathered source content uploads).library.size := Bundle.length_assets packed
      _ = uploads.size + (gathered source content uploads).fetched :=
        size_gathered source content uploads
      _ = _ := by rw [← accounts.uploaded]; rfl

def onePicture : Source Id where
  root := ['.']
  fetch path := pure <|
    if path = Source.templateName then .ok ⟨Text.utf8 ['p'], none⟩
    else if path = "assets/a.png".toList then .ok ⟨[1, 2, 3], none⟩
    else .error (.notFound path)

def threePictures : Node :=
  .list [.text "/assets/a.png".toList, .text "/assets/b.png".toList,
    .text "/assets/c.png".toList, .text "/assets/b.png".toList]

def thirdPicture : Asset.Library := .ofList [.ofUpload "c.png".toList [4]]

theorem exports_account_threePictures :
    (∃ exported,
      (page onePicture ⟨[], .epoch⟩ threePictures thirdPicture).run = .ok exported ∧
      exported.report.unresolved.map MissingAsset.path = ["/assets/b.png".toList] ∧
      exported.report.staticAssets = 1 ∧ exported.report.uploadedAssets = 1) ∧
    ∃ exported,
      (bundle onePicture ⟨[], .epoch⟩ threePictures thirdPicture ['p']).run = .ok exported ∧
      (exported.report.entries.filter fun entry => entry.kind = .asset).length = 2 := by
  obtain ⟨_, pages, bundles⟩ :=
    exports_account onePicture ⟨[], .epoch⟩ threePictures thirdPicture
  have template : onePicture.template.run = .ok ['p'] := Source.template_run_of_utf8 rfl
  have lacking : Asset.Library.empty.missingPaths (rendered onePicture threePictures thirdPicture) =
      ["/assets/b.png".toList] := by decide +kernel
  have asked : (thirdPicture.missingPaths threePictures).length = 2 := by decide +kernel
  have account : ∀ report : Report,
      report.Accounts threePictures (rendered onePicture threePictures thirdPicture) thirdPicture →
        report.unresolved.map MissingAsset.path = ["/assets/b.png".toList] ∧
          report.staticAssets = 1 ∧ report.uploadedAssets = 1 := by
    intro report accounts
    have listed := accounts.unresolved.trans lacking
    have one : report.unresolved.length = 1 := by
      rw [← List.length_map MissingAsset.path, listed]
      rfl
    refine ⟨listed, ?_, accounts.uploaded⟩
    have := accounts.total
    omega
  constructor
  · have ran := (page_run_eq_ok_iff onePicture threePictures thirdPicture ⟨[], .epoch⟩).mpr
      ⟨['p'], template, rfl⟩
    exact ⟨_, ran, account _ (pages _ ran).2⟩
  · have made : (Bundle.files (gathered onePicture threePictures thirdPicture).library).isOk := by
      decide +kernel
    obtain ⟨packed, packs⟩ := @Bundle.exists_package _ ['p'] rfl made threePictures ['p']
    have ran := (bundle_run_eq_ok_iff onePicture threePictures thirdPicture ⟨[], .epoch⟩ ['p']).mpr
      ⟨['p'], packed, template, packs, rfl⟩
    obtain ⟨accounts, assets, _⟩ := bundles _ _ ran
    obtain ⟨_, fetched, uploaded⟩ := account _ accounts
    exact ⟨_, ran, by rw [assets, fetched, uploaded]⟩

end Export
end Pagecraft
