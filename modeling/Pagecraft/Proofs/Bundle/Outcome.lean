import Pagecraft.Bundle.Name
import Pagecraft.Proofs.Bundle.Layout
import Pagecraft.Proofs.Text.Lower

/-! Exactly when packing fails, and with which error. The base name is looked at first, then the
records one after another; the content and the template have no say. -/
namespace Pagecraft.Bundle

theorem nameChar_not_mem (c : Char) : nameChar c ∉ ['/', '\\', '.'] := by
  have none : ∀ d ∈ ['/', '\\', '.'], ¬d.isLower ∧ ¬d.isAlphanum := by
    simp only [List.forall_mem_cons, List.not_mem_nil, false_implies, implies_true, and_true]
    decide
  unfold nameChar
  split
  case isTrue alphanumeric =>
    intro mem
    have same : c = c.toLower := eq_of_toLower_eq (none _ mem).1 rfl
    rw [← same] at mem
    exact (none c mem).2 alphanumeric
  case isFalse => decide

theorem isBaseName_baseName (name : Text) : isBaseName (baseName name) := by
  unfold baseName
  split
  case isTrue => rfl
  case isFalse nonempty =>
    have absent : ∀ c ∈ ['/', '\\', '.'], c ∉ name.map nameChar := by
      intro c special mem
      obtain ⟨original, _, rfl⟩ := List.mem_map.mp mem
      exact nameChar_not_mem original special
    rw [isBaseName_iff]
    refine ⟨?_, absent _ (by simp), absent _ (by simp), ?_⟩
    · simpa using nonempty
    · intro parent
      exact absent '.' (by simp) (by rw [parent]; simp)

section
variable {library : Asset.Library} {base : Text} (tree : Node) (template : Text)

theorem package_map_unit : (package tree template library base).map (fun _ => ()) =
    if isBaseName base then (files library).map fun _ => () else .error (.unsafePath base) := by
  unfold package
  split
  case isTrue => cases files library <;> rfl
  case isFalse => rfl

theorem package_eq_error_iff {e : Error} :
    package tree template library base = .error e ↔
      ¬isBaseName base ∧ e = .unsafePath base ∨ isBaseName base ∧ files library = .error e := by
  have outcome := @package_map_unit library base tree template
  by_cases named : isBaseName base
  · rw [if_pos named] at outcome
    cases packs : package tree template library base <;>
      cases made : files library <;> simp_all [Except.map]
  · rw [package, if_neg named]
    simp [named, eq_comm]

theorem package_ne_error {e : Error} (other : e ≠ .unsafePath base)
    (never : files library ≠ .error e) : package tree template library base ≠ .error e := by
  intro failed
  rcases (package_eq_error_iff tree template).mp failed with ⟨_, named⟩ | ⟨_, failed⟩
  · exact other named
  · exact never failed

theorem package_isOk_iff :
    (∃ bundle, package tree template library base = .ok bundle) ↔
      isBaseName base ∧ Packable library.records := by
  rw [← files_isOk_iff]
  constructor
  · rintro ⟨bundle, packs⟩
    obtain ⟨named, packed, made, _⟩ := package_eq_ok_iff.mp packs
    exact ⟨named, packed, made⟩
  · rintro ⟨named, packed, made⟩
    exact ⟨_, package_eq_ok_iff.mpr ⟨named, packed, made, rfl⟩⟩

end

theorem path_eq_of_entryPath_eq {a b : Asset.Record} {path : Text} (markedA : Asset.isPath a.path)
    (markedB : Asset.isPath b.path) (placedA : entryPath a = .ok path)
    (placedB : entryPath b = .ok path) : a.path = b.path := by
  obtain ⟨sub, pathA⟩ := Asset.isPath_iff.mp markedA
  obtain ⟨sub', pathB⟩ := Asset.isPath_iff.mp markedB
  have placeA : place a = sub := by
    rw [place, Text.dropMark?_eq_some_iff.mpr pathA, Option.getD_some]
  have placeB : place b = sub' := by
    rw [place, Text.dropMark?_eq_some_iff.mpr pathB, Option.getD_some]
  rw [entryPath_eq_ok_iff, placeA] at placedA
  rw [entryPath_eq_ok_iff, placeB] at placedB
  have same : sub = sub' := List.append_cancel_left (placedA.2.symm.trans placedB.2)
  rw [pathA, pathB, same]

theorem not_duplicateEntry {library : Asset.Library}
    (marked : ∀ record ∈ library.records, Asset.isPath record.path) (path : Text) :
    files library ≠ .error (.duplicateEntry path) := by
  intro failed
  obtain ⟨front, record, back, eq, _, offends⟩ := files_eq_error_iff.mp failed
  have among : ∀ other ∈ front ++ [record], other ∈ library.records := by
    rw [eq]
    intro other mem
    simp only [List.mem_append, List.mem_cons] at mem ⊢
    tauto
  cases offends with
  | @duplicateEntry path other placed _ before taken =>
    have first := among other (List.mem_append_left _ before)
    have second := among record (by simp)
    have same := path_eq_of_entryPath_eq (marked other first) (marked record second) taken placed
    have paths := library.nodup_paths
    rw [Asset.Library.paths, eq, List.map_append, List.map_cons, List.nodup_append] at paths
    exact paths.2.2 _ (List.mem_map_of_mem before) _ List.mem_cons_self same

theorem not_missingPayload {library : Asset.Library} (path : Text) :
    files library ≠ .error (.missingPayload path) := by
  intro failed
  obtain ⟨_, _, _, _, _, offends⟩ := files_eq_error_iff.mp failed
  cases offends

/-! Packing more records -/

theorem packable_congr {records records' : List Asset.Record} (same : records.Perm records') :
    Packable records ↔ Packable records' := by
  have forward : ∀ {a b : List Asset.Record}, a.Perm b → Packable a → Packable b := by
    intro a b perm packable
    constructor
    case placed => exact fun record mem => packable.placed record (perm.mem_iff.mpr mem)
    case commaFree => exact fun record mem => packable.commaFree record (perm.mem_iff.mpr mem)
    case apart => exact (perm.map entryPath).nodup_iff.mp packable.apart
  exact ⟨forward same, forward same.symm⟩

theorem packable_append_iff {records others : List Asset.Record}
    (marked : ∀ record ∈ records, Asset.isPath record.path)
    (distinct : (records.map Asset.Record.path).Nodup) (packable : Packable others) :
    Packable (records ++ others) ↔ ∀ record ∈ records, (∃ path, entryPath record = .ok path) ∧
      ',' ∉ record.mediaType ∧ ∀ other ∈ others, entryPath other ≠ entryPath record := by
  constructor
  · intro both record mem
    have apart := both.apart
    rw [List.map_append, List.nodup_append] at apart
    have among : record ∈ records ++ others := List.mem_append_left others mem
    refine ⟨both.placed record among, both.commaFree record among, ?_⟩
    intro other there same
    exact apart.2.2 _ (List.mem_map_of_mem mem) _ (List.mem_map_of_mem there) same.symm
  · intro each
    constructor
    case placed =>
      rw [List.forall_mem_append]
      exact ⟨fun record mem => (each record mem).1, packable.placed⟩
    case commaFree =>
      rw [List.forall_mem_append]
      exact ⟨fun record mem => (each record mem).2.1, packable.commaFree⟩
    case apart =>
      rw [List.map_append, List.nodup_append]
      refine ⟨?_, packable.apart, ?_⟩
      · refine distinct.of_map.map_on fun a memA b memB same => ?_
        obtain ⟨path, placed⟩ := (each b memB).1
        have paths := path_eq_of_entryPath_eq (marked a memA) (marked b memB)
          (same.trans placed) placed
        exact List.inj_on_of_nodup_map distinct memA memB paths
      · intro place mem place' there
        obtain ⟨record, among, rfl⟩ := List.mem_map.mp mem
        obtain ⟨other, elsewhere, rfl⟩ := List.mem_map.mp there
        exact ((each record among).2.2 other elsewhere).symm

/-- What a package comes to. The writer is one that takes any entries with different paths. -/
theorem package_outcome {α : Type} {write : List Entry → Option α}
    (accepts : ∀ entries, (entries.map Entry.path).Nodup → (write entries).isSome)
    (library : Asset.Library) (base : Text) (tree : Node) (template : Text) :
    ((∃ bundle, package tree template library base = .ok bundle ∧ (write bundle.entries).isSome) ↔
      (base ≠ [] ∧ '/' ∉ base ∧ '\\' ∉ base ∧ base ≠ ['.', '.']) ∧ Packable library.records) ∧
    (¬(base ≠ [] ∧ '/' ∉ base ∧ '\\' ∉ base ∧ base ≠ ['.', '.']) →
      package tree template library base = .error (.unsafePath base)) ∧
    ((base ≠ [] ∧ '/' ∉ base ∧ '\\' ∉ base ∧ base ≠ ['.', '.']) → ∀ e,
      package tree template library base = .error e ↔
        ∃ front record back, library.records = front ++ record :: back ∧ Packable front ∧
          Offends front record e) ∧
    (∀ tree' template', (package tree template library base).map (fun _ => ()) =
      (package tree' template' library base).map fun _ => ()) ∧
    (∀ path, package tree template library base ≠ .error (.missingPayload path)) ∧
    ((∀ record ∈ library.records, Asset.isPath record.path) →
      ∀ path, package tree template library base ≠ .error (.duplicateEntry path)) ∧
    ∀ name, isBaseName (baseName name) := by
  simp only [← isBaseName_iff]
  refine ⟨?_, ?_, ?_, ?_, ?_, ?_, isBaseName_baseName⟩
  · rw [← package_isOk_iff tree template]
    refine exists_congr fun bundle => and_iff_left_of_imp fun packs => ?_
    obtain ⟨_, _, laidOut⟩ := exists_laidOut packs
    exact accepts bundle.entries laidOut.distinct
  · intro unnamed
    exact (package_eq_error_iff tree template).mpr (.inl ⟨unnamed, rfl⟩)
  · intro named e
    rw [package_eq_error_iff, ← files_eq_error_iff]
    simp [named]
  · intro tree' template'
    rw [package_map_unit, package_map_unit]
  · intro path
    exact package_ne_error tree template (by simp) (not_missingPayload path)
  · intro marked path
    exact package_ne_error tree template (by simp) (not_duplicateEntry marked path)

/-- A writer that takes no two entries with the same path. -/
def archive? (entries : List Entry) : Option Bytes :=
  if (entries.map Entry.path).Nodup then some (Archive.bytes entries) else none

def sameNames : Asset.Library :=
  .ofList [.ofBytes ['a'] "x/a".toList "text/plain".toList [1],
    .ofBytes ['a'] "y/a".toList "text/plain".toList [2]]

theorem package_outcome_names :
    (∃ bundle, package (.text []) ['x'] nested ['p'] = .ok bundle ∧
      (archive? bundle.entries).isSome) ∧
    package (.text []) ['x'] nested ['.', '.'] = .error (.unsafePath ['.', '.']) ∧
    package (.text []) ['x'] sameNames ['p'] = .error (.duplicateEntry "assets/a".toList) := by
  have accepts : ∀ entries, (entries.map Entry.path).Nodup → (archive? entries).isSome := by
    intro entries distinct
    rw [archive?, if_pos distinct]
    rfl
  have packable : Packable nested.records := by
    have made : (files nested).isOk := by decide +kernel
    have packs := @exists_package nested ['p'] rfl made (.text []) ['x']
    exact ((package_isOk_iff (.text []) ['x']).mp packs).2
  refine ⟨?_, ?_, ?_⟩
  · exact (package_outcome accepts nested ['p'] (.text []) ['x']).1.mpr ⟨by decide, packable⟩
  · exact (package_outcome accepts nested ['.', '.'] (.text []) ['x']).2.1 (by decide)
  · refine ((package_outcome accepts sameNames ['p'] (.text []) ['x']).2.2.1 (by decide) _).mpr ?_
    refine ⟨[.ofBytes ['a'] "x/a".toList "text/plain".toList [1]],
      .ofBytes ['a'] "y/a".toList "text/plain".toList [2], [], by decide +kernel, ?_, ?_⟩
    · constructor
      case placed => exact List.forall_mem_singleton.mpr ⟨"assets/a".toList, by decide⟩
      case commaFree => exact List.forall_mem_singleton.mpr (by decide)
      case apart => exact List.nodup_singleton _
    · apply Offends.duplicateEntry _ _ List.mem_cons_self
      all_goals decide

end Pagecraft.Bundle
