import Pagecraft.Asset.Resolution
import Pagecraft.Proofs.Asset.Library
import Pagecraft.Proofs.Content.Leaves

/-! What resolving does to the leaves of a tree. A data URI is no asset path, so what a library
resolves is out of the way of all that looks for asset paths later. -/
namespace Pagecraft

section
variable {α : Type u} [BEq α] [LawfulBEq α]

theorem eraseDups_filter (p : α → Bool) : (as : List α) →
    (as.filter p).eraseDups = as.eraseDups.filter p
  | [] => rfl
  | a :: as => by
    have others : (as.filter p).filter (fun b => !b == a) =
        (as.filter fun b => !b == a).filter p := by
      rw [List.filter_filter, List.filter_filter]
      exact List.filter_congr fun b _ => Bool.and_comm _ _
    have ih := eraseDups_filter p (as.filter fun b => !b == a)
    by_cases kind : p a
    · rw [List.filter_cons_of_pos kind, List.eraseDups_cons, List.eraseDups_cons,
        List.filter_cons_of_pos kind, others, ih]
    · have same : as.filter p = (as.filter fun b => !b == a).filter p := by
        rw [List.filter_filter]
        refine List.filter_congr fun b _ => ?_
        by_cases eq : b = a
        · simp [eq, kind]
        · simp [eq]
      rw [List.filter_cons_of_neg kind, List.eraseDups_cons, List.filter_cons_of_neg kind, same, ih]
termination_by as => as.length
decreasing_by exact Nat.lt_succ_of_le (List.length_filter_le _ _)

theorem nodup_eraseDups : (as : List α) → as.eraseDups.Nodup
  | [] => by simp
  | a :: as => by
    rw [List.eraseDups_cons, List.nodup_cons]
    refine ⟨?_, nodup_eraseDups _⟩
    rw [List.mem_eraseDups, List.mem_filter]
    simp
termination_by as => as.length
decreasing_by exact Nat.lt_succ_of_le (List.length_filter_le _ _)

end

namespace Asset

theorem head?_of_isPath {t : Text} (h : isPath t) : t.head? = some '/' := by
  obtain ⟨sub, rfl⟩ := isPath_iff.mp h
  rfl

theorem not_isPath_dataUri (record : Record) : ¬isPath record.dataUri := by
  intro path
  have starts : record.dataUri.head? = some 'd' := rfl
  rw [head?_of_isPath path] at starts
  cases starts

theorem not_isPath_relative (t : Text) : ¬isPath (relative t) := by
  by_cases path : isPath t
  · obtain ⟨sub, rfl⟩ := isPath_iff.mp path
    rw [relative_pathMark_append]
    intro path
    have starts : ("assets/".toList ++ sub).head? = some 'a' := rfl
    rw [head?_of_isPath path] at starts
    cases starts
  · rwa [relative_of_not_isPath path]

namespace Library

def resolved (library : Library) (leaf : Text) : Text :=
  ((library.get? leaf).map Record.dataUri).getD leaf

theorem resolve_eq (library : Library) (tree : Node) :
    library.resolve tree = tree.mapLeaves fun leaf => (library.get? leaf).map Record.dataUri := by
  have table := funext library.get?_inlineTable
  rw [resolve, resolveBy]
  split
  case isTrue unused =>
    have nothing : (fun leaf => (library.get? leaf).map Record.dataUri) = fun _ => none := by
      rw [← table, List.isEmpty_iff.mp unused]
      rfl
    rw [nothing, Node.mapLeaves_none]
  case isFalse => rw [table]

theorem leaves_resolve (library : Library) (tree : Node) :
    (library.resolve tree).leaves = tree.leaves.map library.resolved := by
  rw [resolve_eq, Node.leaves_mapLeaves]
  rfl

theorem resolved_of_contains {library : Library} {leaf : Text} (h : library.contains leaf) :
    ∃ record ∈ library.records, record.path = leaf ∧ library.resolved leaf = record.dataUri := by
  obtain ⟨record, found⟩ := Option.isSome_iff_exists.mp h
  refine ⟨record, mem_of_get? found, path_of_get? found, ?_⟩
  rw [resolved, found]
  rfl

theorem resolved_of_not_contains {library : Library} {leaf : Text} (h : ¬library.contains leaf) :
    library.resolved leaf = leaf := by
  rw [resolved, Option.not_isSome_iff_eq_none.mp h]
  rfl

theorem isPath_resolved (library : Library) (leaf : Text) :
    isPath (library.resolved leaf) = (isPath leaf && !library.contains leaf) := by
  by_cases held : library.contains leaf
  · obtain ⟨record, _, _, shown⟩ := resolved_of_contains held
    simp [held, shown, not_isPath_dataUri record]
  · simp [held, resolved_of_not_contains held]

theorem mem_missingPaths {library : Library} {tree : Node} {path : Text} :
    path ∈ library.missingPaths tree ↔
      path ∈ tree.leaves ∧ isPath path ∧ ¬library.contains path := by
  simp [missingPaths, List.mem_filter]

theorem nodup_missingPaths (library : Library) (tree : Node) :
    (library.missingPaths tree).Nodup := nodup_eraseDups _

theorem missingPaths_resolve (library other : Library) (tree : Node) :
    other.missingPaths (library.resolve tree) =
      (library.missingPaths tree).filter fun path => !other.contains path := by
  rw [missingPaths, leaves_resolve, List.filter_map, missingPaths, ← eraseDups_filter,
    List.filter_filter]
  congr 1
  -- A leaf that is still a path was not resolved, so it stands as it was.
  have kept : ∀ leaf ∈ tree.leaves.filter
      ((fun leaf => isPath leaf && !other.contains leaf) ∘ library.resolved),
      library.resolved leaf = leaf := by
    intro leaf mem
    have := (List.mem_filter.mp mem).2
    simp only [Function.comp_apply, isPath_resolved, Bool.and_eq_true, Bool.not_eq_true'] at this
    exact resolved_of_not_contains (by simp [this.1.2])
  rw [List.map_congr_left kept, List.map_id']
  refine List.filter_congr fun leaf _ => ?_
  simp only [Function.comp_apply, isPath_resolved]
  by_cases held : library.contains leaf
  · simp [held]
  · rw [resolved_of_not_contains held]
    cases isPath leaf <;> cases library.contains leaf <;> simp

theorem empty_missingPaths_resolve (library : Library) (tree : Node) :
    empty.missingPaths (library.resolve tree) = library.missingPaths tree := by
  rw [missingPaths_resolve]
  simp

end Library
end Asset
end Pagecraft
