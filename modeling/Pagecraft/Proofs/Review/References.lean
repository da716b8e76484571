import Mathlib.Data.List.Basic
import Pagecraft.Proofs.Bundle.Files
import Pagecraft.Review.Rule

/-! What a review says about asset paths, and which of them can lie in a bundle. A path that a review
warns of is refused when a bundle is packed. The converse fails for paths whose only faults are a
segment that is a single dot or a backslash; a review overlooks them. -/
namespace Pagecraft.Review

/-- That an asset path is refused when a bundle is packed, whatever record has it. -/
def Refused (path : Text) : Prop :=
  Asset.isPath path ∧ ∀ record : Asset.Record, record.path = path →
    Bundle.entryPath record = .error (.unsafePath path)

theorem place_of_path {record : Asset.Record} {sub : Text}
    (path : record.path = Asset.pathMark ++ sub) : Bundle.place record = sub := by
  rw [Bundle.place, Text.dropMark?_eq_some_iff.mpr path, Option.getD_some]

theorem refused_append_iff {sub : Text} :
    Refused (Asset.pathMark ++ sub) ↔ ¬Bundle.isSafe sub := by
  constructor
  · rintro ⟨_, refused⟩ safe
    have failed := refused (.ofBytes [] (Asset.pathMark ++ sub) [] []) rfl
    rw [Bundle.entryPath_eq, place_of_path rfl, if_pos safe] at failed
    cases failed
  · intro unsafe'
    refine ⟨Asset.isPath_iff.mpr ⟨sub, rfl⟩, fun record path => ?_⟩
    rw [Bundle.entryPath_eq, place_of_path path, if_neg unsafe', path]

theorem refused_iff {path : Text} :
    Refused path ↔ Asset.isPath path ∧ ¬Bundle.isSafe (path.drop Asset.pathMark.length) := by
  constructor
  · intro refused
    obtain ⟨sub, rfl⟩ := Asset.isPath_iff.mp refused.1
    refine ⟨refused.1, ?_⟩
    rw [List.drop_left]
    exact refused_append_iff.mp refused
  · rintro ⟨marked, unsafe'⟩
    obtain ⟨sub, rfl⟩ := Asset.isPath_iff.mp marked
    rw [List.drop_left] at unsafe'
    exact refused_append_iff.mpr unsafe'

instance : DecidablePred Refused := fun _ => decidable_of_iff' _ refused_iff

def segments (path : Text) : List Text := Text.pieces '/' (path.drop Asset.pathMark.length)

@[simp] theorem segments_append (sub : Text) :
    segments (Asset.pathMark ++ sub) = sub.pieces '/' := by
  rw [segments, List.drop_left]

theorem isMalformed_append {sub : Text} :
    isMalformed (Asset.pathMark ++ sub) ↔ [] ∈ sub.pieces '/' ∨ ['.', '.'] ∈ sub.pieces '/' := by
  rw [isMalformed, Text.dropMark?_eq_some_iff.mpr rfl]
  simp only [List.any_eq_true, Bool.or_eq_true, List.isEmpty_iff, decide_eq_true_eq]
  simp only [and_or_left, exists_or, exists_eq_right]

theorem isPath_of_isMalformed {path : Text} (h : isMalformed path) : Asset.isPath path := by
  rw [isMalformed] at h
  split at h
  case _ sub dropped => exact Asset.isPath_iff.mpr ⟨sub, Text.dropMark?_eq_some_iff.mp dropped⟩
  case _ => cases h

theorem not_isSafe_iff {sub : Text} :
    ¬Bundle.isSafe sub ↔ ([] ∈ sub.pieces '/' ∨ ['.', '.'] ∈ sub.pieces '/') ∨
      '\\' ∈ sub ∨ ['.'] ∈ sub.pieces '/' := by
  have unsafeSegment (segment : Text) : ¬Bundle.isSafeSegment segment ↔
      segment = [] ∨ segment = ['.'] ∨ segment = ['.', '.'] := by
    simp [Bundle.isSafeSegment]
    tauto
  rw [Bundle.isSafe, Bool.and_eq_true, List.all_eq_true, not_and_or]
  simp only [not_forall, exists_prop, unsafeSegment, and_or_left, exists_or, exists_eq_right]
  simp
  tauto

/-- That an asset path is refused only for a backslash or a segment that is a single dot. -/
def Overlooked (path : Text) : Prop :=
  Asset.isPath path ∧ ¬isMalformed path ∧ ('\\' ∈ path ∨ ['.'] ∈ segments path)

instance : DecidablePred Overlooked := fun path =>
  inferInstanceAs (Decidable (Asset.isPath path ∧ _ ∧ _))

theorem refused_iff_isMalformed_or_overlooked {path : Text} :
    Refused path ↔ isMalformed path ∨ Overlooked path := by
  constructor
  · intro refused
    obtain ⟨sub, rfl⟩ := Asset.isPath_iff.mp refused.1
    by_cases malformed : isMalformed (Asset.pathMark ++ sub)
    · exact .inl malformed
    · have faults := not_isSafe_iff.mp (refused_append_iff.mp refused)
      rw [← isMalformed_append] at faults
      refine .inr ⟨refused.1, malformed, ?_⟩
      rw [segments_append, List.mem_append]
      exact (faults.resolve_left malformed).imp_left .inr
  · rintro (malformed | ⟨marked, _, faults⟩)
    · obtain ⟨sub, rfl⟩ := Asset.isPath_iff.mp (isPath_of_isMalformed malformed)
      exact refused_append_iff.mpr (not_isSafe_iff.mpr (.inl (isMalformed_append.mp malformed)))
    · obtain ⟨sub, rfl⟩ := Asset.isPath_iff.mp marked
      have noBackslash : '\\' ∉ Asset.pathMark := by decide
      rw [segments_append, List.mem_append, or_iff_right noBackslash] at faults
      exact refused_append_iff.mpr (not_isSafe_iff.mpr (.inr faults))

theorem warnings_eq (content : Node) :
    (review content).violations.filter (fun violation => violation.rule = assetRule) =
      (content.leaves.filter isMalformed).map malformedPath := by
  have others (required : Required) (ne : required.rule ≠ assetRule) :
      (required.check content).filter (fun violation => violation.rule = assetRule) = [] := by
    rw [Required.check]
    split <;> simp [ne]
  have features :
      (checkFeatures content).filter (fun violation => violation.rule = assetRule) = [] := by
    have ne : featuresRule ≠ assetRule := by decide
    rw [checkFeatures]
    split <;> simp [ne]
  have own : (checkAssets content).filter (fun violation => violation.rule = assetRule) =
      checkAssets content := by
    rw [List.filter_eq_self]
    intro violation mem
    obtain ⟨leaf, _, rfl⟩ := List.mem_map.mp mem
    rfl
  simp only [review, rules, Required.toRule, List.flatMap_cons, List.flatMap_nil, List.filter_append,
    others siteTitle (by decide), others heroHeadline (by decide),
    others heroSubheadline (by decide), features, own, List.nil_append, List.append_nil]
  rfl

theorem malformedPath_injective {path other : Text}
    (same : malformedPath path = malformedPath other) : path = other := by
  have messages := congrArg Violation.message same
  exact List.append_cancel_left (List.append_cancel_right messages)

theorem refused_path_iff (record : Asset.Record) :
    Refused record.path ↔ Asset.isPath record.path ∧
      Bundle.entryPath record = .error (.unsafePath record.path) := by
  constructor
  · exact fun refused => ⟨refused.1, refused.2 record rfl⟩
  · rintro ⟨marked, failed⟩
    obtain ⟨sub, path⟩ := Asset.isPath_iff.mp marked
    rw [path, refused_append_iff]
    intro safe
    rw [Bundle.entryPath_eq, place_of_path path, if_pos safe] at failed
    cases failed

/-- The warnings about asset paths stand, in the order of a visit, for the leaves that are refused
when a bundle is packed, except those that a review overlooks. They stand for all of them if and only
if there is no leaf to overlook. -/
theorem warnings_eq_refused_iff (content : Node) :
    (review content).violations.filter (fun violation => violation.rule = assetRule) =
      (content.leaves.filter fun leaf => Refused leaf ∧ ¬Overlooked leaf).map malformedPath ∧
    ((review content).violations.filter (fun violation => violation.rule = assetRule) =
      (content.leaves.filter fun leaf => Refused leaf).map malformedPath ↔
        ∀ leaf ∈ content.leaves, ¬Overlooked leaf) ∧
    ∀ record : Asset.Record, Refused record.path ↔ Asset.isPath record.path ∧
      Bundle.entryPath record = .error (.unsafePath record.path) := by
  rw [warnings_eq]
  have warned (leaf : Text) : isMalformed leaf ↔ Refused leaf ∧ ¬Overlooked leaf := by
    rw [refused_iff_isMalformed_or_overlooked]
    exact ⟨fun malformed => ⟨.inl malformed, fun overlooked => overlooked.2.1 malformed⟩,
      fun ⟨either, noticed⟩ => either.resolve_right noticed⟩
  refine ⟨?_, ⟨fun same leaf mem overlooked => ?_, fun noticed => ?_⟩, refused_path_iff⟩
  · congr 1
    refine List.filter_congr fun leaf _ => ?_
    rw [Bool.eq_iff_iff, decide_eq_true_iff, warned]
  · have leaves := List.map_injective_iff.mpr (fun _ _ => malformedPath_injective) same
    have refused := refused_iff_isMalformed_or_overlooked.mpr (.inr overlooked)
    have among : leaf ∈ content.leaves.filter fun leaf => Refused leaf :=
      List.mem_filter.mpr ⟨mem, decide_eq_true refused⟩
    rw [← leaves, List.mem_filter] at among
    exact overlooked.2.1 among.2
  · congr 1
    refine List.filter_congr fun leaf mem => ?_
    rw [Bool.eq_iff_iff, decide_eq_true_iff, warned, and_iff_left (noticed leaf mem)]

def dottedPage : Node := .group [("image".toList, .text "/assets/./a.png".toList)]

theorem warnings_dottedPage :
    (review dottedPage).violations.filter (fun violation => violation.rule = assetRule) = [] ∧
      (dottedPage.leaves.filter fun leaf => Refused leaf) = ["/assets/./a.png".toList] := by
  exact ⟨by decide, by decide⟩

end Pagecraft.Review
