import Pagecraft.Proofs.Content.Leaves
import Pagecraft.Proofs.Json.Values
import Pagecraft.Proofs.Text.Keyed

/-! Trees as content has them: the fields of each group are in order and have different names.
Whatever JSON a tree is made of, it is such a tree, and it is the one that its own JSON makes. -/
namespace Pagecraft.Node

/-- That the fields of every group are in strictly increasing order of their names. -/
inductive Sorted : Node → Prop
  | null : Sorted .null
  | flag (value : Bool) : Sorted (.flag value)
  | number (value : Json.Number) : Sorted (.number value)
  | text (value : Text) : Sorted (.text value)
  | list {items : List Node} (all : ∀ item ∈ items, Sorted item) : Sorted (.list items)
  | group {fields : List (Text × Node)} (increasing : Keyed.Sorted fields)
    (all : ∀ entry ∈ fields, Sorted entry.2) : Sorted (.group fields)

theorem ofJsonItems_eq (items : List Json) : ofJsonItems items = items.map ofJson := by
  induction items with
  | nil => rfl
  | cons item items ih => rw [ofJsonItems, ih, List.map_cons]

theorem ofJsonMembers_eq (members : List (Text × Json)) :
    ofJsonMembers members = members.map fun member => (member.1, ofJson member.2) := by
  induction members with
  | nil => rfl
  | cons member members ih => rw [ofJsonMembers, ih, List.map_cons]

theorem toJsonItems_eq (items : List Node) : toJsonItems items = items.map toJson := by
  induction items with
  | nil => rfl
  | cons item items ih => rw [toJsonItems, ih, List.map_cons]

theorem toJsonFields_eq (fields : List (Text × Node)) :
    toJsonFields fields = fields.map fun entry => (entry.1, toJson entry.2) := by
  induction fields with
  | nil => rfl
  | cons entry fields ih => rw [toJsonFields, ih, List.map_cons]

theorem sorted_ofJson (value : Json) : (ofJson value).Sorted := by
  induction value using Json.induct with
  | null => exact .null
  | bool value => exact .flag value
  | number value => exact .number value
  | string value => exact .text value
  | array items ih =>
    rw [ofJson, ofJsonItems_eq]
    refine .list fun item mem => ?_
    obtain ⟨source, among, rfl⟩ := List.mem_map.mp mem
    exact ih source among
  | object members ih =>
    rw [ofJson, ofJsonMembers_eq]
    refine .group (Keyed.sorted_ofList _) fun entry mem => ?_
    obtain ⟨source, among, rfl⟩ := List.mem_map.mp (Keyed.mem_of_mem_ofList mem)
    exact ih source among

theorem ofJson_toJson {node : Node} (sorted : node.Sorted) : ofJson node.toJson = node := by
  induction sorted with
  | null | flag | number | text => rfl
  | list all ih =>
    rw [toJson, toJsonItems_eq, ofJson, ofJsonItems_eq, List.map_map]
    congr 1
    exact (List.map_congr_left ih).trans (List.map_id _)
  | group increasing all ih =>
    rw [toJson, toJsonFields_eq, ofJson, ofJsonMembers_eq, List.map_map]
    congr 1
    have same := List.map_congr_left fun entry mem => congrArg (Prod.mk entry.1) (ih entry mem)
    exact (congrArg Keyed.ofList (same.trans (List.map_id _))).trans
      (Keyed.ofList_of_sorted increasing)

end Pagecraft.Node
