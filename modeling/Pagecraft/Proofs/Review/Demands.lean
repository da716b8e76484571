import Pagecraft.Proofs.Asset.Discovery
import Pagecraft.Proofs.Review.References

/-! What a review demands of content, and its verdict. Content is valid if it meets all demands,
whatever warnings there are. A demand asks whether there is a text that is not blank, or a feature, so
it is met by the data of a page, in which texts were replaced, if it is met by the content. -/
namespace Pagecraft.Review

/-- That a scalar stands at a path and its text is not blank. -/
def FilledIn (path : Text) (content : Node) : Prop :=
  ∃ node value, content.lookup? path = some node ∧ node.text? = some value ∧ value.trim ≠ []

def Listed (path : Text) (content : Node) : Prop :=
  ∃ item items, content.lookup? path = some (.list (item :: items))

inductive Demand where
  | text (required : Required)
  | feature

namespace Demand

def Met (content : Node) : Demand → Prop
  | .text required => FilledIn required.path content
  | .feature => Listed featuresRule content

def violation : Demand → Violation
  | .text required =>
    ⟨required.rule, .error, required.label ++ " is required".toList, some required.path,
      ["Fill in `".toList ++ required.path ++ "`".toList]⟩
  | .feature =>
    ⟨featuresRule, .error, "At least one feature is required".toList, some featuresRule,
      ["Add an entry to `features`".toList]⟩

def check (content : Node) : Demand → List Violation
  | .text required => required.check content
  | .feature => checkFeatures content

end Demand

/-- The demands in the order in which a review checks them. -/
def demands : List Demand := [.text siteTitle, .text heroHeadline, .text heroSubheadline, .feature]

theorem isBlankAt_iff {content : Node} {path : Text} :
    isBlankAt content path ↔ ¬FilledIn path content := by
  unfold isBlankAt FilledIn Node.lookupText?
  cases found : content.lookup? path with
  | none => simp
  | some node =>
    cases text : node.text? with
    | none => simp [text]
    | some value => simp [text, Text.trim_eq_nil_iff]

theorem items_lookup?_iff {content : Node} {path : Text} :
    (∃ item items, (content.lookup? path).bind Node.items? = some (item :: items)) ↔
      Listed path content := by
  have items_iff (node : Node) (items : List Node) :
      node.items? = some items ↔ node = .list items := by
    cases node <;> simp [Node.items?]
  simp only [Listed, Option.bind_eq_some_iff, items_iff, exists_eq_right]

theorem check_of_met {content : Node} {demand : Demand} (met : demand.Met content) :
    demand.check content = [] := by
  cases demand with
  | text required =>
    rw [Demand.check, Required.check, if_neg fun blank => isBlankAt_iff.mp blank met]
  | feature =>
    obtain ⟨item, items, found⟩ := items_lookup?_iff.mpr met
    rw [Demand.check, checkFeatures, found]

theorem check_of_not_met {content : Node} {demand : Demand} (unmet : ¬demand.Met content) :
    demand.check content = [demand.violation] := by
  cases demand with
  | text required =>
    rw [Demand.check, Required.check, if_pos (isBlankAt_iff.mpr unmet)]
    rfl
  | feature =>
    rw [Demand.check, checkFeatures]
    split
    case h_1 item items found => exact absurd (items_lookup?_iff.mp ⟨item, items, found⟩) unmet
    case h_2 => rfl

instance (content : Node) (demand : Demand) : Decidable (demand.Met content) :=
  decidable_of_iff (demand.check content = []) (by
    refine ⟨fun silent => ?_, check_of_met⟩
    by_contra unmet
    rw [check_of_not_met unmet] at silent
    cases silent)

def failures (content : Node) : List Violation :=
  (demands.filter fun demand => ¬demand.Met content).map Demand.violation

theorem flatMap_check (content : Node) (demands : List Demand) :
    demands.flatMap (Demand.check content) =
      (demands.filter fun demand => ¬demand.Met content).map Demand.violation := by
  induction demands with
  | nil => rfl
  | cons demand demands ih =>
    rw [List.flatMap_cons, ih]
    by_cases met : demand.Met content
    · rw [check_of_met met, List.filter_cons_of_neg (by simpa using met)]
      rfl
    · rw [check_of_not_met met, List.filter_cons_of_pos (by simpa using met)]
      rfl

theorem violations_eq (content : Node) :
    (review content).violations =
      failures content ++ (content.leaves.filter isMalformed).map malformedPath := by
  rw [failures, ← flatMap_check]
  simp only [review, rules, Required.toRule, demands, List.flatMap_cons, List.flatMap_nil,
    List.append_assoc, List.append_nil]
  rfl

theorem severity_violation (demand : Demand) : demand.violation.severity = .error := by
  cases demand <;> rfl

theorem valid_append_warnings (violations : List Violation) (leaves : List Text) :
    (Verdict.mk (violations ++ leaves.map malformedPath)).valid =
      (Verdict.mk violations).valid := by
  have warnings : ∀ violation ∈ leaves.map malformedPath,
      (decide (violation.severity ≠ .error)) = true := by
    intro violation mem
    obtain ⟨leaf, _, rfl⟩ := List.mem_map.mp mem
    rfl
  rw [Verdict.valid, Verdict.valid, List.all_append, List.all_eq_true.mpr warnings, Bool.and_true]

theorem valid_review_iff (content : Node) :
    (review content).valid ↔ ∀ demand ∈ demands, demand.Met content := by
  have verdict : review content = ⟨(review content).violations⟩ := rfl
  rw [verdict, violations_eq, valid_append_warnings, Verdict.valid, List.all_eq_true]
  simp only [failures, List.forall_mem_map, List.mem_filter, severity_violation, decide_eq_true_eq,
    ne_eq, not_true_eq_false, imp_false, not_and, not_not]

/-! Demands and the data of a page -/

section
variable {f : Text → Option Text} (keeps : ∀ leaf, ((f leaf).getD leaf).trim = [] ↔ leaf.trim = [])
include keeps

theorem filledIn_mapLeaves (path : Text) (content : Node) :
    FilledIn path (content.mapLeaves f) ↔ FilledIn path content := by
  unfold FilledIn
  rw [Node.lookup?_mapLeaves]
  cases content.lookup? path with
  | none => simp
  | some node =>
    cases node with
    | text value => simp [Node.mapLeaves, Node.text?, keeps value]
    | null | flag | number => rfl
    | list | group => simp [Node.text?]

theorem met_mapLeaves (content : Node) (demand : Demand) :
    demand.Met (content.mapLeaves f) ↔ demand.Met content := by
  cases demand with
  | text required => exact filledIn_mapLeaves keeps required.path content
  | feature =>
    unfold Demand.Met Listed
    rw [Node.lookup?_mapLeaves]
    cases content.lookup? featuresRule with
    | none => simp
    | some node =>
      cases node with
      | list items => cases items <;> simp
      | null | flag | number | text => simp [Node.mapLeaves]
      | group => simp

theorem valid_mapLeaves (content : Node) :
    (review (content.mapLeaves f)).valid = (review content).valid := by
  rw [Bool.eq_iff_iff, valid_review_iff, valid_review_iff]
  simp only [met_mapLeaves keeps]

end

theorem trim_ne_nil_of_mem {t : Text} {c : Char} (mem : c ∈ t) (solid : ¬isBlank c) :
    t.trim ≠ [] := by
  intro blank
  exact solid (List.all_eq_true.mp (Text.trim_eq_nil_iff.mp blank) c mem)

theorem trim_resolved_iff {library : Asset.Library}
    (named : ∀ record ∈ library.records, record.path.trim ≠ []) (leaf : Text) :
    (library.resolved leaf).trim = [] ↔ leaf.trim = [] := by
  by_cases held : library.contains leaf
  · obtain ⟨record, mem, rfl, shown⟩ := Asset.Library.resolved_of_contains held
    have begins : 'd' ∈ record.dataUri := (Asset.dataUri_begins record).subset (by decide)
    rw [shown]
    exact iff_of_false (trim_ne_nil_of_mem begins (by decide)) (named record mem)
  · rw [Asset.Library.resolved_of_not_contains held]

theorem trim_relative_iff (leaf : Text) : (Asset.relative leaf).trim = [] ↔ leaf.trim = [] := by
  by_cases path : Asset.isPath leaf
  · obtain ⟨sub, rfl⟩ := Asset.isPath_iff.mp path
    rw [Asset.relative_pathMark_append]
    have slash : '/' ∈ Asset.pathMark := by decide
    have letter : 'a' ∈ "assets/".toList := by decide
    exact iff_of_false (trim_ne_nil_of_mem (List.mem_append_left sub letter) (by decide))
      (trim_ne_nil_of_mem (List.mem_append_left sub slash) (by decide))
  · rw [Asset.relative_of_not_isPath path]

theorem isMalformed_iff {leaf : Text} :
    isMalformed leaf ↔ ∃ sub, leaf = Asset.pathMark ++ sub ∧
      ([] ∈ sub.pieces '/' ∨ ['.', '.'] ∈ sub.pieces '/') := by
  constructor
  · intro malformed
    obtain ⟨sub, rfl⟩ := Asset.isPath_iff.mp (isPath_of_isMalformed malformed)
    exact ⟨sub, rfl, isMalformed_append.mp malformed⟩
  · rintro ⟨sub, rfl, faults⟩
    exact isMalformed_append.mpr faults

/-- Content is valid if three scalars are filled in and there is a feature. The warnings, one for each
malformed asset path among the leaves, come after what is said of these four and have no part in the
verdict; and the verdict on the data of a page is that on its content, if no asset has a blank path. -/
theorem review_verdict (content : Node) :
    ((review content).valid ↔
      FilledIn "site.title".toList content ∧ FilledIn "hero.headline".toList content ∧
        FilledIn "hero.subheadline".toList content ∧ Listed "features".toList content) ∧
    (review content).violations =
      failures content ++ (content.leaves.filter isMalformed).map malformedPath ∧
    (∀ leaf, isMalformed leaf ↔ ∃ sub, leaf = "/assets/".toList ++ sub ∧
      ([] ∈ sub.pieces '/' ∨ "..".toList ∈ sub.pieces '/')) ∧
    (∀ leaves : List Text,
      (Verdict.mk (failures content ++ leaves.map malformedPath)).valid =
        (review content).valid) ∧
    ∀ library : Asset.Library, (∀ record ∈ library.records, record.path.trim ≠ []) →
      (review (library.resolve content)).valid = (review content).valid ∧
      (review (Asset.relativize (library.resolve content))).valid = (review content).valid := by
  refine ⟨?_, violations_eq content, fun leaf => isMalformed_iff, fun leaves => ?_,
    fun library named => ?_⟩
  · rw [valid_review_iff]
    simp only [demands, List.forall_mem_cons, List.not_mem_nil, false_imp_iff, implies_true,
      and_true]
    rfl
  · have verdict : review content = ⟨(review content).violations⟩ := rfl
    rw [verdict, violations_eq, valid_append_warnings, valid_append_warnings]
  · have resolved : (review (library.resolve content)).valid = (review content).valid := by
      rw [Asset.Library.resolve_eq]
      exact valid_mapLeaves (trim_resolved_iff named) content
    have relative (leaf : Text) :
        ((some (Asset.relative leaf)).getD leaf).trim = [] ↔ leaf.trim = [] :=
      trim_relative_iff leaf
    refine ⟨resolved, ?_⟩
    rw [Asset.relativize_eq, valid_mapLeaves relative, resolved]

/-- A page whose title and headline are asset paths, the headline a malformed one. -/
def picturePage : Node :=
  .group [("features".toList, .list [.null]),
    ("hero".toList, .group [("headline".toList, .text "/assets//b".toList),
      ("subheadline".toList, .flag false)]),
    ("site".toList, .group [("title".toList, .text "/assets/logo".toList)])]

theorem review_verdict_picturePage :
    (∀ record ∈ Asset.Library.logoLibrary.records, record.path.trim ≠ []) ∧
    (review picturePage).violations = [malformedPath "/assets//b".toList] ∧
    (review (Asset.relativize (Asset.Library.logoLibrary.resolve picturePage))).valid := by
  obtain ⟨_, said, _, _, same⟩ := review_verdict picturePage
  have named : ∀ record ∈ Asset.Library.logoLibrary.records, record.path.trim ≠ [] := by decide
  refine ⟨named, said.trans (by decide), ?_⟩
  rw [(same Asset.Library.logoLibrary named).2]
  decide

end Pagecraft.Review
