import Mathlib.Data.List.Basic
import Pagecraft.Content.Path

/-! The text leaves of a content tree: what a rewriting of the leaves does to them, and that a
path leads to nothing but leaves of the tree it starts from. -/
namespace Pagecraft.Node

/-- Induction over a tree. The items of a list and the values of a group are its parts. -/
@[elab_as_elim]
theorem induct {motive : Node → Prop} (null : motive .null)
    (flag : ∀ value, motive (.flag value)) (number : ∀ value, motive (.number value))
    (text : ∀ value, motive (.text value))
    (list : ∀ items, (∀ item ∈ items, motive item) → motive (.list items))
    (group : ∀ fields : List (Text × Node), (∀ entry ∈ fields, motive entry.2) →
      motive (.group fields)) :
    (node : Node) → motive node
  | .null => null
  | .flag value => flag value
  | .number value => number value
  | .text value => text value
  | .list items => list items fun item _ =>
      induct null flag number text list group item
  | .group fields => group fields fun (_, value) _ =>
      induct null flag number text list group value
termination_by node => sizeOf node
decreasing_by
  · have := List.sizeOf_lt_of_mem ‹_ ∈ items›
    simp only [Node.list.sizeOf_spec]
    omega
  · have := List.sizeOf_lt_of_mem ‹_ ∈ fields›
    simp only [Node.group.sizeOf_spec, Prod.mk.sizeOf_spec] at this ⊢
    omega

theorem leavesOfItems_eq (items : List Node) : leavesOfItems items = items.flatMap leaves := by
  induction items with
  | nil => rfl
  | cons item items ih => rw [leavesOfItems, ih, List.flatMap_cons]

theorem leavesOfFields_eq (fields : List (Text × Node)) :
    leavesOfFields fields = fields.flatMap fun entry => leaves entry.2 := by
  induction fields with
  | nil => rfl
  | cons entry fields ih => rw [leavesOfFields, ih, List.flatMap_cons]

theorem mapLeavesOfItems_eq (f : Text → Option Text) (items : List Node) :
    mapLeavesOfItems f items = items.map (mapLeaves f) := by
  induction items with
  | nil => rfl
  | cons item items ih => rw [mapLeavesOfItems, ih, List.map_cons]

theorem mapLeavesOfFields_eq (f : Text → Option Text) (fields : List (Text × Node)) :
    mapLeavesOfFields f fields = fields.map fun entry => (entry.1, mapLeaves f entry.2) := by
  induction fields with
  | nil => rfl
  | cons entry fields ih => rw [mapLeavesOfFields, ih, List.map_cons]

@[simp] theorem leaves_list (items : List Node) :
    (Node.list items).leaves = items.flatMap leaves := by
  rw [leaves, leavesOfItems_eq]

@[simp] theorem leaves_group (fields : List (Text × Node)) :
    (Node.group fields).leaves = fields.flatMap fun entry => entry.2.leaves := by
  rw [leaves, leavesOfFields_eq]

@[simp] theorem leaves_text (value : Text) : (Node.text value).leaves = [value] := by
  rw [leaves]

@[simp] theorem mapLeaves_list (f : Text → Option Text) (items : List Node) :
    (Node.list items).mapLeaves f = .list (items.map (mapLeaves f)) := by
  rw [mapLeaves, mapLeavesOfItems_eq]

@[simp] theorem mapLeaves_group (f : Text → Option Text) (fields : List (Text × Node)) :
    (Node.group fields).mapLeaves f =
      .group (fields.map fun entry => (entry.1, entry.2.mapLeaves f)) := by
  rw [mapLeaves, mapLeavesOfFields_eq]

theorem leaves_mapLeaves (f : Text → Option Text) (node : Node) :
    (node.mapLeaves f).leaves = node.leaves.map fun leaf => (f leaf).getD leaf := by
  induction node using induct with
  | null | flag | number => simp [mapLeaves, leaves]
  | text value => simp [mapLeaves]
  | list items ih =>
    simp only [mapLeaves_list, leaves_list, List.flatMap_map, List.map_flatMap]
    exact List.flatMap_congr ih
  | group fields ih =>
    simp only [mapLeaves_group, leaves_group, List.flatMap_map, List.map_flatMap]
    exact List.flatMap_congr ih

theorem mapLeaves_none (node : Node) : node.mapLeaves (fun _ => none) = node := by
  induction node using induct with
  | null | flag | number | text => simp [mapLeaves]
  | list items ih =>
    rw [mapLeaves_list, List.map_congr_left ih, List.map_id']
  | group fields ih =>
    have same : fields.map (fun entry => (entry.1, entry.2.mapLeaves fun _ => none)) = fields :=
      (List.map_congr_left fun entry mem => congrArg (Prod.mk entry.1) (ih entry mem)).trans
        (List.map_id' fields)
    rw [mapLeaves_group, same]

theorem mapLeaves_mapLeaves (f g : Text → Option Text) (node : Node) :
    (node.mapLeaves f).mapLeaves g =
      node.mapLeaves fun leaf => some ((g ((f leaf).getD leaf)).getD ((f leaf).getD leaf)) := by
  induction node using induct with
  | null | flag | number => simp [mapLeaves]
  | text value => simp [mapLeaves]
  | list items ih =>
    simp only [mapLeaves_list, List.map_map]
    congr 1
    exact List.map_congr_left ih
  | group fields ih =>
    simp only [mapLeaves_group, List.map_map]
    congr 1
    exact List.map_congr_left fun entry mem => congrArg (Prod.mk entry.1) (ih entry mem)

theorem mapLeaves_congr {f g : Text → Option Text} {node : Node}
    (h : ∀ leaf ∈ node.leaves, (f leaf).getD leaf = (g leaf).getD leaf) :
    node.mapLeaves f = node.mapLeaves g := by
  induction node using induct with
  | null | flag | number => simp [mapLeaves]
  | text value => simpa [mapLeaves] using h
  | list items ih =>
    simp only [mapLeaves_list]
    congr 1
    refine List.map_congr_left fun item mem => ih item mem fun leaf hl => h leaf ?_
    rw [leaves_list]
    exact List.mem_flatMap.mpr ⟨item, mem, hl⟩
  | group fields ih =>
    simp only [mapLeaves_group]
    congr 1
    refine List.map_congr_left fun entry mem => congrArg (Prod.mk entry.1) ?_
    refine ih entry mem fun leaf hl => h leaf ?_
    rw [leaves_group]
    exact List.mem_flatMap.mpr ⟨entry, mem, hl⟩

/-- A tree with all its texts blotted out: the kinds of the nodes, the names of the fields, the
numbers of the items and the scalars that are no texts. -/
def shape (node : Node) : Node := node.mapLeaves fun _ => some []

@[simp] theorem shape_mapLeaves (f : Text → Option Text) (node : Node) :
    (node.mapLeaves f).shape = node.shape := by
  rw [shape, mapLeaves_mapLeaves]
  rfl

/-! Every way into a tree keeps to its leaves. -/

theorem leaves_subset_of_mem_items {item : Node} {items : List Node} (h : item ∈ items) :
    item.leaves ⊆ (Node.list items).leaves := by
  intro leaf hl
  rw [leaves_list]
  exact List.mem_flatMap.mpr ⟨item, h, hl⟩

theorem leaves_subset_of_get? {key : Text} {value : Node} {fields : List (Text × Node)}
    (h : Keyed.get? key fields = some value) : value.leaves ⊆ (Node.group fields).leaves := by
  intro leaf hl
  rw [leaves_group]
  exact List.mem_flatMap.mpr ⟨(key, value), Keyed.mem_of_get? h, hl⟩

theorem leaves_subset_of_child? {key : Text} {node child : Node}
    (h : node.child? key = some child) : child.leaves ⊆ node.leaves := by
  cases node with
  | group fields => exact leaves_subset_of_get? h
  | list items =>
    obtain ⟨position, _, found⟩ := Option.bind_eq_some_iff.mp h
    exact leaves_subset_of_mem_items (List.mem_of_getElem? found)
  | null | flag | number | text => simp [child?] at h

theorem leaves_subset_of_item? {position : Nat} {node item : Node}
    (h : node.item? position = some item) : item.leaves ⊆ node.leaves := by
  cases node with
  | list items => exact leaves_subset_of_mem_items (List.mem_of_getElem? h)
  | null | flag | number | text | group => simp [item?] at h

theorem leaves_subset_of_foldlM {step : Node → α → Option Node} {steps : List α}
    {node found : Node} (keeps : ∀ a node next, step node a = some next → next.leaves ⊆ node.leaves)
    (h : steps.foldlM step node = some found) : found.leaves ⊆ node.leaves := by
  induction steps generalizing node with
  | nil =>
    cases h
    exact List.Subset.refl _
  | cons a steps ih =>
    rw [List.foldlM_cons] at h
    obtain ⟨next, taken, walked⟩ := Option.bind_eq_some_iff.mp h
    exact List.Subset.trans (ih walked) (keeps a node next taken)

theorem leaves_subset_of_step? {segment : Segment} {node next : Node}
    (h : node.step? segment = some next) : next.leaves ⊆ node.leaves := by
  rw [step?] at h
  cases key : segment.key with
  | none =>
    rw [key] at h
    exact leaves_subset_of_foldlM (fun _ _ _ => leaves_subset_of_item?) h
  | some key' =>
    rw [key] at h
    obtain ⟨start, taken, walked⟩ := Option.bind_eq_some_iff.mp h
    exact List.Subset.trans
      (leaves_subset_of_foldlM (fun _ _ _ => leaves_subset_of_item?) walked)
      (leaves_subset_of_child? taken)

theorem leaves_subset_of_lookup? {path : Text} {node found : Node}
    (h : node.lookup? path = some found) : found.leaves ⊆ node.leaves := by
  rw [lookup?] at h
  split at h
  · cases h
    exact List.Subset.refl _
  · refine leaves_subset_of_foldlM (fun segment node next taken => ?_) h
    obtain ⟨_, _, stepped⟩ := Option.bind_eq_some_iff.mp taken
    exact leaves_subset_of_step? stepped

end Pagecraft.Node
