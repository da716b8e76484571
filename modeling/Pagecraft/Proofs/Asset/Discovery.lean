import Mathlib.Data.List.Induction
import Pagecraft.Proofs.Asset.Resolution
import Pagecraft.Proofs.Content.Traversal

/-! Finding the assets of a page. A visit that writes down every asset path without a record, unless
it was written down before, ends with the paths that a library lacks, in the order in which they
are met first. These are all that resolving leaves to be found, and a relative tree has none. -/
namespace Pagecraft

section
variable {α : Type} [BEq α] [LawfulBEq α]

theorem eraseDups_concat (as : List α) (a : α) :
    (as ++ [a]).eraseDups = if a ∈ as then as.eraseDups else as.eraseDups ++ [a] := by
  rw [List.eraseDups_append]
  by_cases mem : a ∈ as <;> simp [List.removeAll, mem, List.eraseDups_cons]

theorem pairwise_idxOf_eraseDups (p : α → Bool) (as : List α) :
    (as.filter p).eraseDups.Pairwise fun a b => as.idxOf a < as.idxOf b := by
  induction as using List.reverseRecOn with
  | nil => simp
  | append_singleton as a ih =>
    have among : ∀ b ∈ (as.filter p).eraseDups, b ∈ as := fun b mem =>
      List.mem_of_mem_filter (List.mem_eraseDups.mp mem)
    have kept : (as.filter p).eraseDups.Pairwise
        fun b c => (as ++ [a]).idxOf b < (as ++ [a]).idxOf c := by
      refine ih.imp_of_mem fun hb hc less => ?_
      rwa [List.idxOf_append_of_mem (among _ hb), List.idxOf_append_of_mem (among _ hc)]
    by_cases chosen : p a
    · rw [List.filter_append, List.filter_cons_of_pos chosen, List.filter_nil, eraseDups_concat]
      split
      case isTrue => exact kept
      case isFalse absent =>
        have new : a ∉ as := fun mem => absent (List.mem_filter.mpr ⟨mem, chosen⟩)
        refine List.pairwise_append.mpr ⟨kept, List.pairwise_singleton _ _, fun b mem c last => ?_⟩
        rw [List.mem_singleton.mp last, List.idxOf_append_of_mem (among b mem),
          List.idxOf_append_of_notMem new]
        exact Nat.lt_add_right _ (List.idxOf_lt_length_of_mem (among b mem))
    · rw [List.filter_append, List.filter_cons_of_neg chosen, List.filter_nil, List.append_nil]
      exact kept

end

namespace Asset

theorem dataUri_begins (record : Record) : "data:".toList <+: record.dataUri := by
  unfold Record.dataUri DataUri.encode
  simp only [List.append_assoc]
  exact List.prefix_append _ _

theorem relative_relative (t : Text) : relative (relative t) = relative t :=
  relative_of_not_isPath (not_isPath_relative t)

theorem relativize_eq (tree : Node) :
    relativize tree = tree.mapLeaves fun leaf => some (relative leaf) := by
  refine Node.mapLeaves_congr fun leaf _ => ?_
  by_cases path : isPath leaf
  · rw [if_pos path]
  · rw [if_neg path, Option.getD_none, Option.getD_some, relative_of_not_isPath path]

theorem relativize_relativize (tree : Node) : relativize (relativize tree) = relativize tree := by
  rw [relativize_eq, relativize_eq, Node.mapLeaves_mapLeaves]
  refine Node.mapLeaves_congr fun leaf _ => ?_
  simp only [Option.getD_some, relative_relative]

namespace Library

theorem missingPaths_relativize (library : Library) (tree : Node) :
    library.missingPaths (relativize tree) = [] := by
  rw [List.eq_nil_iff_forall_not_mem]
  intro path mem
  obtain ⟨leaf, marked, _⟩ := mem_missingPaths.mp mem
  rw [relativize_eq, Node.leaves_mapLeaves] at leaf
  obtain ⟨original, _, rfl⟩ := List.mem_map.mp leaf
  exact not_isPath_relative original marked

/-- Writes down a leaf that is an asset path without a record, unless it was written down before. -/
def note (library : Library) (leaf : Text) : StateM (List Text) Unit :=
  modify fun noted =>
    if isPath leaf && !library.contains leaf && !noted.contains leaf then noted ++ [leaf]
    else noted

theorem state_note (library : Library) (leaf : Text) (noted : List Text) :
    ((library.note leaf).run noted).2 =
      if isPath leaf && !library.contains leaf && !noted.contains leaf then noted ++ [leaf]
      else noted := rfl

theorem foldl_note (library : Library) (leaves : List Text) :
    leaves.foldl (fun noted leaf => ((library.note leaf).run noted).2) [] =
      (leaves.filter fun leaf => isPath leaf && !library.contains leaf).eraseDups := by
  induction leaves using List.reverseRecOn with
  | nil => rfl
  | append_singleton leaves leaf ih =>
    rw [List.foldl_concat, ih, state_note]
    cases lacks : isPath leaf && !library.contains leaf with
    | false => simp [lacks]
    | true =>
      rw [List.filter_append, List.filter_cons_of_pos (by simpa using lacks), List.filter_nil,
        eraseDups_concat]
      simp [lacks]

theorem state_visit_note (library : Library) (tree : Node) :
    ((tree.visit library.note).run []).2 = library.missingPaths tree := by
  rw [Node.state_visit, foldl_note, missingPaths]

theorem state_traverse_note (library : Library) (tree : Node) :
    ((tree.traverse fun leaf => do library.note leaf; return none).run []).2 =
      library.missingPaths tree := by
  obtain ⟨calls, result, after, pass⟩ :=
    Node.exists_pass (fun leaf => do library.note leaf; return none) tree []
  rw [pass.rebuilt, pass.left]
  exact foldl_note library tree.leaves

theorem pairwise_missingPaths (library : Library) (tree : Node) :
    (library.missingPaths tree).Pairwise fun a b => tree.leaves.idxOf a < tree.leaves.idxOf b :=
  pairwise_idxOf_eraseDups _ tree.leaves

theorem resolve_resolve {library : Library}
    (apart : ∀ record ∈ library.records, ¬library.contains record.dataUri) (tree : Node) :
    library.resolve (library.resolve tree) = library.resolve tree := by
  rw [resolve_eq, resolve_eq, Node.mapLeaves_mapLeaves]
  refine Node.mapLeaves_congr fun leaf _ => ?_
  change library.resolved (library.resolved leaf) = library.resolved leaf
  by_cases held : library.contains leaf
  · obtain ⟨record, mem, _, shown⟩ := resolved_of_contains held
    rw [shown, resolved_of_not_contains (apart record mem)]
  · rw [resolved_of_not_contains held, resolved_of_not_contains held]

/-- What a library lacks is listed once and in the order of a visit, which collects it: the asset
paths among the leaves without a record. Resolving leaves these to be found and no others; it is done
in one go if no data URI can be the path of a record, and so is making a tree relative, which leaves
nothing to be found. -/
theorem missingPaths_complement (library other : Library) (tree : Node) :
    ((tree.visit library.note).run []).2 = library.missingPaths tree ∧
    ((tree.traverse fun leaf => do library.note leaf; return none).run []).2 =
      library.missingPaths tree ∧
    (library.missingPaths tree).Nodup ∧
    (library.missingPaths tree).Pairwise (fun a b => tree.leaves.idxOf a < tree.leaves.idxOf b) ∧
    (∀ path, path ∈ library.missingPaths tree ↔
      path ∈ tree.leaves ∧ pathMark <+: path ∧ path ∉ library.paths) ∧
    other.missingPaths (library.resolve tree) =
      (library.missingPaths tree).filter (fun path => path ∉ other.paths) ∧
    ((∀ path ∈ library.paths, ¬"data:".toList <+: path) →
      library.resolve (library.resolve tree) = library.resolve tree) ∧
    relativize (relativize tree) = relativize tree ∧
    other.missingPaths (relativize tree) = [] := by
  refine ⟨library.state_visit_note tree, library.state_traverse_note tree,
    library.nodup_missingPaths tree, library.pairwise_missingPaths tree, fun path => ?_, ?_,
    fun apart => ?_, relativize_relativize tree, other.missingPaths_relativize tree⟩
  · rw [mem_missingPaths, isPath_iff, contains_iff]
    simp only [List.prefix_iff_exists_append_eq, eq_comm]
  · rw [missingPaths_resolve]
    refine List.filter_congr fun path _ => ?_
    rw [Bool.eq_iff_iff, decide_eq_true_iff, ← contains_iff]
    simp
  · refine resolve_resolve (fun record _ held => ?_) tree
    exact apart record.dataUri (contains_iff.mp held) (dataUri_begins record)

def logoLibrary : Library :=
  .ofList [.ofBytes "logo".toList "/assets/logo".toList "image/png".toList [1]]

def photoLibrary : Library :=
  .ofList [.ofBytes "photo".toList "/assets/photo".toList "image/png".toList [2]]

def logoPage : Node :=
  .list [.text "/assets/icon".toList, .group [("image".toList, .text "/assets/logo".toList),
    ("text".toList, .text "assets/icon".toList)], .text "/assets/photo".toList,
    .text "/assets/icon".toList, .text "/assets/logo".toList]

theorem missingPaths_complement_logo :
    (∀ path ∈ logoLibrary.paths, ¬"data:".toList <+: path) ∧
    logoLibrary.missingPaths logoPage = ["/assets/icon".toList, "/assets/photo".toList] ∧
    photoLibrary.missingPaths (logoLibrary.resolve logoPage) = ["/assets/icon".toList] ∧
    logoLibrary.resolve (logoLibrary.resolve logoPage) = logoLibrary.resolve logoPage := by
  obtain ⟨_, _, _, _, _, further, again, _⟩ :=
    missingPaths_complement logoLibrary photoLibrary logoPage
  have apart : ∀ path ∈ logoLibrary.paths, ¬"data:".toList <+: path := by decide
  have missing : logoLibrary.missingPaths logoPage =
      ["/assets/icon".toList, "/assets/photo".toList] := by decide
  refine ⟨apart, missing, ?_, again apart⟩
  rw [further, missing]
  decide

end Library
end Asset
end Pagecraft
