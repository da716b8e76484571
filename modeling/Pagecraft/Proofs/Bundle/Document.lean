import Pagecraft.Proofs.Asset.Resolution
import Pagecraft.Proofs.Bundle.Files

/-! The data of a bundle's page. Resolving and making relative are together one rewriting of the
leaves, and the second has nothing to do where the library has every asset. -/
namespace Pagecraft

namespace Asset.Library

/-- The leaf that stands in the data of a bundle's page for a leaf. -/
def shown (library : Library) (leaf : Text) : Text :=
  match library.get? leaf with
  | some record => record.dataUri
  | none => if isPath leaf then leaf.drop 1 else leaf

theorem shown_eq_relative (library : Library) (leaf : Text) :
    library.shown leaf = relative (library.resolved leaf) := by
  rw [shown, resolved]
  cases library.get? leaf with
  | none => rfl
  | some record => exact (relative_of_not_isPath (not_isPath_dataUri record)).symm

theorem not_isPath_shown (library : Library) (leaf : Text) : ¬isPath (library.shown leaf) := by
  rw [shown_eq_relative]
  exact not_isPath_relative _

theorem shown_eq_resolved {library : Library} {leaf : Text}
    (covered : isPath leaf → library.contains leaf) : library.shown leaf = library.resolved leaf := by
  rw [shown_eq_relative]
  refine relative_of_not_isPath fun path => ?_
  rw [isPath_resolved, Bool.and_eq_true, Bool.not_eq_true'] at path
  rw [covered path.1] at path
  cases path.2

theorem missingPaths_eq_nil_iff {library : Library} {tree : Node} :
    library.missingPaths tree = [] ↔ ∀ leaf ∈ tree.leaves, isPath leaf → library.contains leaf := by
  simp [List.eq_nil_iff_forall_not_mem, mem_missingPaths]

end Asset.Library

namespace Bundle

theorem pageData_eq (library : Asset.Library) (tree : Node) :
    pageData library tree = tree.mapLeaves fun leaf => some (library.shown leaf) := by
  rw [pageData, Asset.relativize, Asset.Library.resolve_eq, Node.mapLeaves_mapLeaves]
  refine Node.mapLeaves_congr fun leaf _ => ?_
  rw [Option.getD_some, Option.getD_some, Asset.Library.shown_eq_relative, Asset.Library.resolved,
    Asset.relative]
  split <;> simp [*]

@[simp] theorem shape_pageData (library : Asset.Library) (tree : Node) :
    (pageData library tree).shape = tree.shape := by
  rw [pageData_eq, Node.shape_mapLeaves]

theorem leaves_pageData (library : Asset.Library) (tree : Node) :
    (pageData library tree).leaves = tree.leaves.map library.shown := by
  rw [pageData_eq, Node.leaves_mapLeaves]
  rfl

theorem not_isPath_of_mem_leaves_pageData {library : Asset.Library} {tree : Node} {leaf : Text}
    (mem : leaf ∈ (pageData library tree).leaves) : ¬Asset.isPath leaf := by
  rw [leaves_pageData] at mem
  obtain ⟨original, _, rfl⟩ := List.mem_map.mp mem
  exact library.not_isPath_shown original

theorem pageData_eq_resolve {library : Asset.Library} {tree : Node}
    (covered : ∀ leaf ∈ tree.leaves, Asset.isPath leaf → library.contains leaf) :
    pageData library tree = library.resolve tree := by
  rw [pageData_eq, Asset.Library.resolve_eq]
  exact Node.mapLeaves_congr fun leaf mem => Asset.Library.shown_eq_resolved (covered leaf mem)

theorem document_of_package {tree : Node} {template : Text} {library : Asset.Library} {base : Text}
    {bundle : Bundle} (h : package tree template library base = .ok bundle) :
    bundle.document = Template.render template (pageData library tree) := by
  obtain ⟨_, _, _, rfl⟩ := package_eq_ok_iff.mp h
  rfl

end Bundle
end Pagecraft
