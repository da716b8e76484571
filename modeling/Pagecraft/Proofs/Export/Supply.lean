import Pagecraft.Command.Project
import Pagecraft.Proofs.Bundle.Document
import Pagecraft.Proofs.Export.Gathering
import Pagecraft.Proofs.Source.Tracing

/-! Where an export has its assets from, and what it asks of a source for them. A saved record comes
before an upload, and an upload before what the source has; the source is asked for nothing that is
there, and for nothing twice. -/
namespace Pagecraft.Export

/-- The record for a path: the first saved one, else the first uploaded one, else the fetched. -/
def supplied (records uploads : List Asset.Record) (asked : Answers) (path : Text) :
    Option Asset.Record :=
  (records.find? fun record => record.path = path).or
    ((uploads.find? fun record => record.path = path).or (Source.answered? asked path))

/-- What an export with a template comes to, when it has asked for some assets. -/
structure Supplied (content : Node) (records uploads : List Asset.Record) (base template : Text)
    (asked : Answers) (page : Except ExportError (Exported Text))
    (bundle : Except ExportError (Exported Bundle)) : Prop where
  once : (Source.templateName :: Keyed.keys (Source.callsFor asked)).Nodup
  needed : ∀ path, path ∈ Keyed.keys asked ↔ path ∈ content.leaves ∧ Asset.isPath path ∧
    path ∉ records.map Asset.Record.path ∧ path ∉ uploads.map Asset.Record.path
  rendered : page.map Exported.product =
    .ok (Template.render template (content.mapLeaves fun leaf =>
      (supplied records uploads asked leaf).map fun record =>
        DataUri.encode record.mediaType record.bytes))
  packed : ∃ library : Asset.Library,
    (∀ path, library.get? path = supplied records uploads asked path) ∧
    bundle.map Exported.product =
      (Bundle.package content template library base).mapError .archive
  document : ∀ exported, bundle = .ok exported →
    exported.product.document = Template.render template (content.mapLeaves fun leaf =>
      some <| match supplied records uploads asked leaf with
        | some record => DataUri.encode record.mediaType record.bytes
        | none => Asset.relative leaf)

structure Refused (calls : Answers) (page : Except ExportError (Exported Text))
    (bundle : Except ExportError (Exported Bundle)) (answer : Except SourceError Fetched)
    (cause : SourceError) : Prop where
  once : calls = [(Source.templateName, answer)]
  unusable : answer = .error cause ∨ cause = .templateNotUtf8 ∧
    ∃ fetched, answer = .ok fetched ∧ ∀ t : Text, t.utf8 ≠ fetched.bytes
  page : page = .error (.template cause)
  bundle : bundle = .error (.template cause)

/-- What pages and bundles have in common: all but what is made of the template and the assets. -/
def exporting {m : Type → Type} [Monad m] {α : Type} (source : Source m) (content : Node)
    (library : Asset.Library) (finish : Text → Gathered → Except ExportError α) :
    m (Except ExportError α) := do
  match ← source.template with
  | .error cause => return .error (.template cause)
  | .ok template => return finish template (← gather source content library)

section
variable {m : Type → Type} [Monad m] (source : Source m) (stamp : Stamp) (content : Node)
  (library : Asset.Library)

end

section
variable {σ α : Type} {source : Source (StateM σ)} {s next after : σ}
  {answer : Except SourceError Fetched} (content : Node) (library : Asset.Library)
  (finish : Text → Gathered → Except ExportError α)

theorem exporting_run_of_error {cause : SourceError}
    (answered : (source.fetch Source.templateName).run s = (answer, next))
    (unusable : Source.usable answer = .error cause) :
    (exporting source content library finish).run s = (.error (.template cause), next) := by
  have template := run_map_of_run_eq answered Source.usable
  rw [unusable, ← Source.template_eq] at template
  rw [exporting, run_bind_of_run_eq template]
  rfl

theorem exporting_run_of_ok {template : Text} {asked : Answers}
    (answered : (source.fetch Source.templateName).run s = (answer, next))
    (usable : Source.usable answer = .ok template)
    (ran : (source.ask (library.missingPaths content)).run next = (asked, after)) :
    (exporting source content library finish).run s =
      (finish template (gatheredFrom library asked), after) := by
  have loaded := run_map_of_run_eq answered Source.usable
  rw [usable, ← Source.template_eq] at loaded
  have gathers := run_map_of_run_eq ran (gatheredFrom library)
  rw [← gather_eq_ask] at gathers
  rw [exporting, run_bind_of_run_eq loaded, run_bind_of_run_eq gathers]
  rfl

end

section
variable {records uploads : List Asset.Record} {content : Node} {asked : Answers}

theorem mem_missingPaths_layers {path : Text} :
    path ∈ ((Asset.Library.ofList records).extend uploads).missingPaths content ↔
      path ∈ content.leaves ∧ Asset.isPath path ∧
        path ∉ records.map Asset.Record.path ∧ path ∉ uploads.map Asset.Record.path := by
  rw [Asset.Library.mem_missingPaths, Asset.Library.contains_extend, Asset.Library.ofList,
    Asset.Library.contains_extend, Asset.Library.contains_empty]
  simp

theorem get?_gatheredFrom_layers (once : (Keyed.keys asked).Nodup) (path : Text) :
    (gatheredFrom ((Asset.Library.ofList records).extend uploads) asked).library.get? path =
      supplied records uploads asked path := by
  rw [get?_gatheredFrom once, Asset.Library.get?_extend, Asset.Library.ofList,
    Asset.Library.get?_extend, Asset.Library.get?_empty, Option.none_or, Option.or_assoc]
  rfl

theorem nodup_calls (once : (Keyed.keys asked).Nodup)
    (paths : ∀ path ∈ Keyed.keys asked, Asset.isPath path) :
    (Source.templateName :: Keyed.keys (Source.callsFor asked)).Nodup := by
  rw [Source.keys_callsFor, List.nodup_cons]
  constructor
  · intro mem
    obtain ⟨path, among, same⟩ := List.mem_map.mp mem
    obtain ⟨sub, rfl⟩ := Asset.isPath_iff.mp (paths path among)
    rw [Asset.relative_pathMark_append] at same
    cases same
  · apply once.map_on
    intro path among other among' same
    obtain ⟨sub, rfl⟩ := Asset.isPath_iff.mp (paths path among)
    obtain ⟨sub', rfl⟩ := Asset.isPath_iff.mp (paths other among')
    rw [Asset.relative_pathMark_append, Asset.relative_pathMark_append] at same
    rw [List.append_cancel_left same]

theorem rendered_of_get? {library : Asset.Library} {template : Text}
    (found : ∀ path, library.get? path = supplied records uploads asked path) :
    Template.render template (library.resolve content) =
      Template.render template (content.mapLeaves fun leaf =>
        (supplied records uploads asked leaf).map fun record =>
          DataUri.encode record.mediaType record.bytes) := by
  rw [Asset.Library.resolve_eq]
  simp only [found]
  rfl

theorem document_of_get? {library : Asset.Library} {template : Text}
    (found : ∀ path, library.get? path = supplied records uploads asked path) :
    Template.render template (Bundle.pageData library content) =
      Template.render template (content.mapLeaves fun leaf =>
        some <| match supplied records uploads asked leaf with
          | some record => DataUri.encode record.mediaType record.bytes
          | none => Asset.relative leaf) := by
  rw [Bundle.pageData_eq]
  unfold Asset.Library.shown
  simp only [found]
  rfl

theorem supplied_export (root : Text) (stamp : Stamp) (base template : Text)
    (keys : Keyed.keys asked =
      ((Asset.Library.ofList records).extend uploads).missingPaths content) :
    Supplied content records uploads base template asked
      (.ok (pageOf root stamp content template
        (gatheredFrom ((Asset.Library.ofList records).extend uploads) asked)))
      (bundleOf root stamp content template
        (gatheredFrom ((Asset.Library.ofList records).extend uploads) asked) base) := by
  have once : (Keyed.keys asked).Nodup := keys ▸ Asset.Library.nodup_missingPaths _ content
  have needed : ∀ path, path ∈ Keyed.keys asked ↔ path ∈ content.leaves ∧ Asset.isPath path ∧
      path ∉ records.map Asset.Record.path ∧ path ∉ uploads.map Asset.Record.path := by
    intro path
    rw [keys, mem_missingPaths_layers]
  have found := @get?_gatheredFrom_layers records uploads asked once
  refine ⟨?_, needed, ?_, ⟨_, found, ?_⟩, ?_⟩
  case refine_1 => exact nodup_calls once fun path mem => ((needed path).mp mem).2.1
  case refine_2 => exact congrArg Except.ok (rendered_of_get? found)
  case refine_3 =>
    unfold bundleOf
    cases Bundle.package content template
      (gatheredFrom ((Asset.Library.ofList records).extend uploads) asked).library base <;> rfl
  case refine_4 =>
    intro exported made
    obtain ⟨packed, packs, ends⟩ := Except.bind_eq_ok_iff.mp made
    rw [Except.mapError_eq_ok_iff] at packs
    cases ends
    rw [Bundle.document_of_package packs, document_of_get? found]

end

/-- Runs of a page and of a bundle, with the calls that both make. -/
structure Runs {σ : Type} (source : Source (StateM σ)) (stamp : Stamp) (content : Node)
    (library : Asset.Library) (base : Text) (before after : σ) (calls : Answers)
    (page : Except ExportError (Exported Text)) (bundle : Except ExportError (Exported Bundle)) :
    Prop where
  pageRun : (Export.page source stamp content library).run before = (page, after)
  bundleRun : (Export.bundle source stamp content library base).run before = (bundle, after)
  pageCalls : (Export.page source.traced stamp content library).run (before, []) =
    (page, after, calls)
  bundleCalls : (Export.bundle source.traced stamp content library base).run (before, []) =
    (bundle, after, calls)

/-- An export asks for the template first, and for nothing more if there is none; else for the
assets that it has neither saved nor uploaded, each once. The records of a project are those of the
saved page, then the uploads. -/
theorem exports_supplied {σ : Type} (source : Source (StateM σ)) (before : σ) (stamp : Stamp)
    (content : Node) (records uploads : List Asset.Record) (base : Text) :
    (∃ after calls page bundle,
      Runs source stamp content ((Asset.Library.ofList records).extend uploads) base before after
        calls page bundle ∧
      ((∃ answer cause, Refused calls page bundle answer cause) ∨
        ∃ template contentType asked,
          calls = (Source.templateName, .ok ⟨Text.utf8 template, contentType⟩) ::
            Source.callsFor asked ∧
          Supplied content records uploads base template asked page bundle)) ∧
    ∀ path text project files, Project.ofText? path text = some project →
      (project.withUploads files).library =
        (Asset.Library.ofList (((SavedPage.ofText? text).map SavedPage.assets).getD [])).extend
          (Asset.Record.ofUploads files) := by
  constructor
  · cases answered : (source.fetch Source.templateName).run before with
    | mk answer next =>
      have called := Source.fetch_traced source before [] answered
      cases loaded : Source.usable answer with
      | error cause =>
        refine ⟨next, _, _, _, ⟨?_, ?_, ?_, ?_⟩,
          .inl ⟨answer, cause, rfl, Source.usable_eq_error_iff.mp loaded, rfl, rfl⟩⟩
        · exact exporting_run_of_error content _ _ answered loaded
        · exact exporting_run_of_error content _ _ answered loaded
        · exact exporting_run_of_error content _ _ called loaded
        · exact exporting_run_of_error content _ _ called loaded
      | ok template =>
        obtain ⟨contentType, rfl⟩ := Source.usable_eq_ok_iff.mp loaded
        obtain ⟨asked, after, keys, ran, traced⟩ := Source.ask_traced source next
          ([] ++ [(Source.templateName, .ok ⟨Text.utf8 template, contentType⟩)])
          (((Asset.Library.ofList records).extend uploads).missingPaths content)
        refine ⟨after, _, _, _, ⟨?_, ?_, ?_, ?_⟩,
          .inr ⟨template, contentType, asked, rfl,
            supplied_export source.root stamp base template keys⟩⟩
        · exact exporting_run_of_ok content _ _ answered loaded ran
        · exact exporting_run_of_ok content _ _ answered loaded ran
        · exact exporting_run_of_ok content _ _ called loaded traced
        · exact exporting_run_of_ok content _ _ called loaded traced
  · intro path text project files read
    unfold Project.ofText? at read
    cases saved : SavedPage.ofText? text with
    | none =>
      rw [saved] at read
      obtain ⟨content, _, rfl⟩ := Option.map_eq_some_iff.mp read
      rfl
    | some page =>
      rw [saved] at read
      cases read
      rfl

def counting : Source (StateM Nat) where
  root := []
  fetch path := fun n =>
    (if path = Source.templateName then .ok ⟨Text.utf8 ['p'], none⟩ else .ok ⟨[.ofNat n], none⟩,
      n + 1)

def repeatedPicture : Node :=
  .list [.text "/assets/a".toList, .text "/assets/b".toList, .text "/assets/a".toList]

def savedPicture : Asset.Record := .ofBytes ['b'] "/assets/b".toList ['t'] [7]

theorem exports_supplied_repeated :
    (∃ after calls asked page bundle,
      Runs counting ⟨[], .epoch⟩ repeatedPicture
        ((Asset.Library.ofList [savedPicture]).extend [.ofUpload ['b'] [8]]) ['p'] 0 after calls
        page bundle ∧
      calls.tail = Source.callsFor asked ∧ "/assets/b".toList ∉ Keyed.keys asked ∧
      (Keyed.keys (Source.callsFor asked)).count "assets/a".toList = 1 ∧
      ∃ template, ∃ library : Asset.Library,
        library.get? "/assets/b".toList = some savedPicture ∧
        bundle.map Exported.product =
          (Bundle.package repeatedPicture template library ['p']).mapError .archive) ∧
    ∃ project, Project.ofText? ['c'] "\"x\"".toList = some project ∧
      (project.withUploads [(['a'], [1])]).library =
        Asset.Library.empty.extend (Asset.Record.ofUploads [(['a'], [1])]) := by
  obtain ⟨⟨after, calls, page, bundle, runs, outcome⟩, projects⟩ :=
    exports_supplied counting 0 ⟨[], .epoch⟩ repeatedPicture [savedPicture] [.ofUpload ['b'] [8]]
      ['p']
  constructor
  · rcases outcome with ⟨answer, cause, refused⟩ | ⟨template, contentType, asked, rfl, supply⟩
    · have first : ((Export.page counting.traced ⟨[], .epoch⟩ repeatedPicture
          ((Asset.Library.ofList [savedPicture]).extend [.ofUpload ['b'] [8]])).run (0, [])).2.2.head?
            = some (Source.templateName, .ok ⟨Text.utf8 ['p'], none⟩) := by decide +kernel
      rw [runs.pageCalls, refused.once] at first
      obtain rfl : answer = .ok ⟨Text.utf8 ['p'], none⟩ :=
        congrArg Prod.snd (Option.some.inj first)
      rcases refused.unusable with failed | ⟨_, fetched, given, unread⟩
      · cases failed
      · cases given
        exact absurd rfl (unread ['p'])
    · have saved : "/assets/b".toList ∉ Keyed.keys asked := by
        rw [supply.needed]
        decide +kernel
      have asks : "/assets/a".toList ∈ Keyed.keys asked := by
        rw [supply.needed]
        decide +kernel
      have called : "assets/a".toList ∈ Keyed.keys (Source.callsFor asked) := by
        rw [Source.keys_callsFor]
        exact List.mem_map_of_mem asks
      have once := List.count_eq_one_of_mem (List.nodup_cons.mp supply.once).2 called
      obtain ⟨library, found, packed⟩ := supply.packed
      exact ⟨after, _, asked, page, bundle, runs, rfl, saved, once, template, library,
        found "/assets/b".toList, packed⟩
  · have readable : (Project.ofText? ['c'] "\"x\"".toList).isSome := by decide +kernel
    have unsaved : SavedPage.ofText? "\"x\"".toList = none :=
      Option.not_isSome_iff_eq_none.mp (by decide +kernel)
    obtain ⟨project, read⟩ := Option.isSome_iff_exists.mp readable
    have layers := projects _ _ project [(['a'], [1])] read
    rw [unsaved] at layers
    exact ⟨project, read, layers⟩

end Pagecraft.Export
