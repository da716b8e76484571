import Mathlib.Data.List.Basic
import Pagecraft.Asset.Resolution
import Pagecraft.Proofs.Content.Sorted
import Pagecraft.Review.Rule
import Pagecraft.Template.Render

/-! A field that is `null` might as well be left out. Every way through a tree without such fields
leads to what it led to before, without such fields, or to nothing where it led to `null`; and
no page, review or search for assets tells the one from the other. -/
namespace Pagecraft
namespace Node

def isNull : Node → Bool
  | .null => true
  | _ => false

mutual

/-- Leaves out the fields that are `null`, at every depth. Items of lists keep their places. -/
def prune : Node → Node
  | .list items => .list (pruneItems items)
  | .group fields => .group (pruneFields fields)
  | .null => .null
  | .flag value => .flag value
  | .number value => .number value
  | .text value => .text value

def pruneItems : List Node → List Node
  | [] => []
  | item :: items => prune item :: pruneItems items

def pruneFields : List (Text × Node) → List (Text × Node)
  | [] => []
  | (name, value) :: fields =>
    if isNull value then pruneFields fields else (name, prune value) :: pruneFields fields

end

theorem eq_null_of_isNull {node : Node} (h : node.isNull) : node = .null := by
  cases node with
  | null => rfl
  | flag | number | text | list | group => cases h

theorem pruneItems_eq (items : List Node) : pruneItems items = items.map prune := by
  induction items with
  | nil => rfl
  | cons item items ih => rw [pruneItems, ih, List.map_cons]

theorem pruneFields_eq (fields : List (Text × Node)) :
    pruneFields fields =
      (fields.filter fun entry => !entry.2.isNull).map fun entry => (entry.1, entry.2.prune) := by
  induction fields with
  | nil => rfl
  | cons entry fields ih =>
    rw [pruneFields, ih]
    by_cases null : entry.2.isNull <;> simp [null]

@[simp] theorem prune_list (items : List Node) :
    (Node.list items).prune = .list (items.map prune) := by
  rw [prune, pruneItems_eq]

@[simp] theorem prune_group (fields : List (Text × Node)) :
    (Node.group fields).prune =
      .group ((fields.filter fun entry => !entry.2.isNull).map
        fun entry => (entry.1, entry.2.prune)) := by
  rw [prune, pruneFields_eq]

@[simp] theorem text?_prune (node : Node) : node.prune.text? = node.text? := by
  cases node with
  | null | number | text => rfl
  | flag value => cases value <;> rfl
  | list | group => simp [text?]

@[simp] theorem items?_prune (node : Node) :
    node.prune.items? = node.items?.map (List.map prune) := by
  cases node with
  | null | flag | number | text => rfl
  | list | group => simp [items?]

theorem leaves_prune (node : Node) : node.prune.leaves = node.leaves := by
  induction node using induct with
  | null | flag | number | text => rfl
  | list items ih =>
    rw [prune_list, leaves_list, leaves_list, List.flatMap_map]
    exact List.flatMap_congr ih
  | group fields ih =>
    rw [prune_group, leaves_group, leaves_group, List.flatMap_map]
    induction fields with
    | nil => rfl
    | cons entry fields rest =>
      have here := ih entry List.mem_cons_self
      have there := rest fun other mem => ih other (List.mem_cons_of_mem _ mem)
      by_cases null : entry.2.isNull
      · have none : entry.2.leaves = [] := by
          rw [eq_null_of_isNull null]
          rfl
        simp [null, none, there]
      · simp [null, here, there]

/-! Ways through a tree -/

/-- What a way through the pruned tree finds, by what it finds in the tree. -/
inductive Shadow : Option Node → Option Node → Prop
  | pruned (found : Option Node) : Shadow found (found.map prune)
  | absent : Shadow (some .null) none

/-- A way that pruning does not block or change. -/
structure Respects (way : Node → Option Node) : Prop where
  shadow : ∀ {node : Node}, node.Sorted → Shadow (way node) (way node.prune)
  sorted : ∀ {node next : Node}, node.Sorted → way node = some next → next.Sorted
  null : ∀ {next : Node}, way .null = some next → next = .null

namespace Respects

theorem nowhere : Respects fun _ => none where
  shadow _ := .pruned none
  sorted _ := nofun
  null := nofun

theorem here : Respects some where
  shadow {node} _ := .pruned (some node)
  sorted sorted same := Option.some.inj same ▸ sorted
  null same := (Option.some.inj same).symm

theorem bind {way further : Node → Option Node} (first : Respects way) (second : Respects further) :
    Respects fun node => (way node).bind further where
  shadow {node} sorted := by
    have shadow := first.shadow sorted
    generalize found : way node = reached at shadow
    generalize way node.prune = reached' at shadow
    cases shadow with
    | pruned =>
      cases reached with
      | none => exact .pruned none
      | some next => exact second.shadow (first.sorted sorted found)
    | absent =>
      rw [Option.bind_some, Option.bind_none]
      cases beyond : further .null with
      | none => exact .pruned none
      | some next =>
        rw [second.null beyond]
        exact .absent
  sorted {node next} sorted found := by
    obtain ⟨middle, reached, beyond⟩ := Option.bind_eq_some_iff.mp found
    exact second.sorted (first.sorted sorted reached) beyond
  null {next} found := by
    obtain ⟨middle, reached, beyond⟩ := Option.bind_eq_some_iff.mp found
    rw [first.null reached] at beyond
    exact second.null beyond

theorem foldlM {step : Node → α → Option Node} (steps : ∀ a, Respects fun node => step node a)
    (list : List α) : Respects fun node => list.foldlM step node := by
  induction list with
  | nil => exact here
  | cons a list ih =>
    simp only [List.foldlM_cons]
    exact (steps a).bind ih

end Respects

theorem shadow_get? {fields : List (Text × Node)} (distinct : (Keyed.keys fields).Nodup)
    (name : Text) :
    Shadow (Keyed.get? name fields)
      (Keyed.get? name ((fields.filter fun entry => !entry.2.isNull).map
        fun entry => (entry.1, entry.2.prune))) := by
  rw [Keyed.get?_map, Keyed.get?_filter distinct fun value => !value.isNull]
  cases found : Keyed.get? name fields with
  | none => exact .pruned none
  | some value =>
    by_cases null : value.isNull
    · rw [eq_null_of_isNull null]
      exact .absent
    · rw [Option.filter_some, if_pos (by simpa using null)]
      exact .pruned (some value)

theorem shadow_getElem? (items : List Node) (position : Nat) :
    Shadow items[position]? (items.map prune)[position]? := by
  rw [List.getElem?_map]
  exact .pruned _

theorem Sorted.of_mem_items {items : List Node} {item : Node} (sorted : (Node.list items).Sorted)
    (mem : item ∈ items) : item.Sorted := by
  cases sorted with
  | list all => exact all item mem

theorem respects_child? (key : Text) : Respects (child? key) where
  shadow {node} sorted := by
    cases sorted with
    | null | flag | number | text => exact .pruned none
    | list all =>
      rw [prune_list]
      unfold child?
      cases key.toIndex? with
      | none => exact .pruned none
      | some position => exact shadow_getElem? _ position
    | group increasing all =>
      rw [prune_group]
      exact shadow_get? increasing.nodup_keys key
  sorted {node next} sorted found := by
    cases sorted with
    | null | flag | number | text => cases found
    | list all =>
      obtain ⟨position, _, found⟩ := Option.bind_eq_some_iff.mp found
      exact all next (List.mem_of_getElem? found)
    | group increasing all => exact all (key, next) (Keyed.mem_of_get? found)
  null := nofun

theorem respects_item? (position : Nat) : Respects (item? position) where
  shadow {node} sorted := by
    cases node with
    | null | flag | number | text => exact .pruned none
    | list items =>
      rw [prune_list]
      exact shadow_getElem? items position
    | group fields =>
      rw [prune_group]
      exact .pruned none
  sorted {node next} sorted found := by
    cases node with
    | list items => exact sorted.of_mem_items (List.mem_of_getElem? found)
    | null | flag | number | text | group => cases found
  null := nofun

theorem respects_step? (segment : Segment) : Respects (step? segment) := by
  have positions := Respects.foldlM respects_item? segment.positions
  obtain ⟨key, steps⟩ := segment
  cases key with
  | none => exact Respects.here.bind positions
  | some key => exact (respects_child? key).bind positions

theorem respects_lookup? (path : Text) : Respects (lookup? path) := by
  by_cases whole : path = ['.']
  · have same : lookup? path = some := by
      funext node
      rw [lookup?, if_pos whole]
    rw [same]
    exact .here
  · have walked : lookup? path = fun node => (path.pieces '.').foldlM
        (fun node segment => (Segment.ofText? segment).bind node.step?) node := by
      funext node
      rw [lookup?, if_neg whole]
    rw [walked]
    refine Respects.foldlM (fun segment => ?_) _
    cases Segment.ofText? segment with
    | none => exact .nowhere
    | some segment => exact respects_step? segment

theorem lookupText?_prune {node : Node} (sorted : node.Sorted) (path : Text) :
    node.prune.lookupText? path = node.lookupText? path := by
  have shadow := (respects_lookup? path).shadow sorted
  unfold lookupText?
  generalize node.lookup? path = found at shadow
  generalize node.prune.lookup? path = found' at shadow
  cases shadow with
  | pruned => cases found <;> simp
  | absent => rfl

theorem items?_lookup?_prune {node : Node} (sorted : node.Sorted) (path : Text) :
    (node.prune.lookup? path).bind items? =
      ((node.lookup? path).bind items?).map (List.map prune) := by
  have shadow := (respects_lookup? path).shadow sorted
  generalize node.lookup? path = found at shadow
  generalize node.prune.lookup? path = found' at shadow
  cases shadow with
  | pruned => cases found <;> simp
  | absent => rfl

theorem sorted_of_mem_items? {node item : Node} {path : Text} {items : List Node}
    (sorted : node.Sorted) (found : (node.lookup? path).bind items? = some items)
    (mem : item ∈ items) : item.Sorted := by
  obtain ⟨list, reached, listed⟩ := Option.bind_eq_some_iff.mp found
  have sorted := (respects_lookup? path).sorted sorted reached
  cases list with
  | list _ =>
    cases listed
    exact sorted.of_mem_items mem
  | null | flag | number | text | group => cases listed

end Node

/-! Pages -/

namespace Template

theorem interpolate_prune {scope : Node} (sorted : scope.Sorted) (index : Option Nat) (t : Text) :
    interpolate scope.prune index t = interpolate scope index t := by
  have same : replaceMarker scope.prune index = replaceMarker scope index := by
    funext u
    simp only [replaceMarker, markerText, Node.lookupText?_prune sorted]
  rw [interpolate, same, interpolate]

theorem repeatBody_prune {elements : List Node} (sorted : ∀ element ∈ elements, element.Sorted)
    (body : Text) : repeatBody body (elements.map Node.prune) = repeatBody body elements := by
  rw [repeatBody, List.zipIdx_map, List.flatMap_map, repeatBody]
  refine List.flatMap_congr fun turn mem => ?_
  exact interpolate_prune (sorted _ (List.fst_mem_of_mem_zipIdx mem)) _ body

theorem loopText_prune {data : Node} (sorted : data.Sorted) (name body : Text) :
    loopText data.prune name body = loopText data name body := by
  rw [loopText, Node.items?_lookup?_prune sorted, loopText]
  cases found : (data.lookup? name).bind Node.items? with
  | none => rfl
  | some elements =>
    exact repeatBody_prune (fun _ => Node.sorted_of_mem_items? sorted found) body

theorem conditionText_prune {data : Node} (sorted : data.Sorted) (name body : Text) :
    conditionText data.prune name body = conditionText data name body := by
  rw [conditionText, holds, Node.lookupText?_prune sorted, conditionText, holds]

theorem render_prune {data : Node} (sorted : data.Sorted) (template : Text) :
    render template data.prune = render template data := by
  simp only [render, interpolate_prune sorted, expandLoops, loopText_prune sorted, applyConditions,
    conditionText_prune sorted]

end Template

/-! Reviews -/

namespace Review

theorem check_prune {data : Node} (sorted : data.Sorted) (required : Required) :
    required.check data.prune = required.check data := by
  rw [Required.check, isBlankAt, Node.lookupText?_prune sorted, Required.check, isBlankAt]

theorem checkFeatures_prune {data : Node} (sorted : data.Sorted) :
    checkFeatures data.prune = checkFeatures data := by
  rw [checkFeatures, Node.items?_lookup?_prune sorted, checkFeatures]
  cases (data.lookup? featuresRule).bind Node.items? with
  | none => rfl
  | some features => cases features <;> rfl

theorem checkAssets_prune (data : Node) : checkAssets data.prune = checkAssets data := by
  rw [checkAssets, Node.leaves_prune, checkAssets]

theorem review_prune {data : Node} (sorted : data.Sorted) : review data.prune = review data := by
  simp only [review, rules, List.flatMap_cons, List.flatMap_nil, Required.toRule,
    check_prune sorted, checkFeatures_prune sorted, checkAssets_prune]

end Review

namespace Node

/-- Leaving out the fields that are `null` changes no page, no review and no search for assets. -/
theorem prune_unseen {data : Node} (sorted : data.Sorted) :
    (∀ template, Template.render template data.prune = Template.render template data) ∧
      Review.review data.prune = Review.review data ∧
      (Review.review data.prune).valid = (Review.review data).valid ∧
      ∀ library : Asset.Library, library.missingPaths data.prune = library.missingPaths data := by
  have reviewed := Review.review_prune sorted
  refine ⟨Template.render_prune sorted, reviewed, congrArg Review.Verdict.valid reviewed, ?_⟩
  intro library
  rw [Asset.Library.missingPaths, leaves_prune, Asset.Library.missingPaths]

def gapsJson : Json :=
  .object [("hero".toList, .object [("headline".toList, .null)]),
    ("rows".toList, .array [.object [(['a'], .null), (['b'], .string "/assets/b".toList)], .null,
      .object [(['a'], .string ['x'])]])]

/-- `{{#rows}}{{@index}}{{a}}{{b}};{{/rows}}` -/
def gapsTemplate : Text :=
  Template.openTag "rows".toList ++ Template.marker Template.indexMarker ++
    Template.marker ['a'] ++ Template.marker ['b'] ++ ';' :: Template.closeTag "rows".toList

theorem prune_unseen_gaps : (ofJson gapsJson).Sorted ∧
    (ofJson gapsJson).lookup? "rows[0].a".toList = some .null ∧
    (ofJson gapsJson).prune.lookup? "rows[0].a".toList = none ∧
    Template.render gapsTemplate (ofJson gapsJson).prune =
      '1' :: Template.marker ['a'] ++ "/assets/b;2".toList ++ Template.marker ['a'] ++
        Template.marker ['b'] ++ ";3x".toList ++ Template.marker ['b'] ++ [';'] := by
  have sorted := sorted_ofJson gapsJson
  refine ⟨sorted, ?_, ?_, ?_⟩
  · rfl
  · rfl
  · exact ((prune_unseen sorted).1 _).trans (by decide +kernel)

end Node
end Pagecraft
