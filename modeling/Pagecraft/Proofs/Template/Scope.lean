import Pagecraft.Proofs.Content.Walks
import Pagecraft.Proofs.Template.Language
import Pagecraft.Proofs.Template.Values

/-! What a marker in a loop shows. The data of the page answer before the elements do, as the first
pass goes over the bodies of loops too: a field of an element is shown exactly if the page has no
other text of that name. -/
namespace Pagecraft.Template
open Text

/-- The name of a field, as a marker can ask an element for it. -/
structure FieldName extends Path where
  no_point : '.' ∉ body
  no_bracket : '[' ∉ body
  not_local : body.head? ≠ some '@'

theorem FieldName.lookupText?_group (name : FieldName) (fields : List (Text × Node)) :
    (Node.group fields).lookupText? name.body =
      (Keyed.get? name.body fields).bind Node.text? := by
  rw [Node.lookupText?, Node.lookup?_key name.no_point name.no_bracket]
  rfl

/-- The data of the page answer first, then the element. -/
theorem FieldName.valueText_eq (name : FieldName) (data element : Node) (position : Nat) :
    valueText data (some ⟨element, position⟩) name.body =
      ((data.lookupText? name.body).or (element.lookupText? name.body)).getD
        (marker name.body) := by
  have ne : name.body ≠ indexMarker := by
    intro eq
    exact name.not_local (by rw [eq]; rfl)
  rw [Tree.valueText_some, answer?, answer?, if_neg ne]
  cases data.lookupText? name.body <;> rfl

def turns (data : Node) (elements : List Node) (path before after : Text) : Text :=
  (elements.zipIdx 1).flatMap fun (element, position) =>
    before ++ (valueText data (some ⟨element, position⟩) path ++ after)

def loopOver (w : Word) (path before after : Text) : Text :=
  openTag w.val ++ ((before ++ (marker path ++ after)) ++ closeTag w.val)

section
variable {data : Node} {before after : Text}

theorem interpolate_loopOver (w : Word) (path : Path) (plainBefore : before.IsPlain)
    (plainAfter : after.IsPlain) :
    interpolate data none (loopOver w path.body before after) =
      openTag w.val ++
        ((before ++ (markerText data none path.body ++ after)) ++ closeTag w.val) := by
  have tag := isPlain_tag (isPlain_of_isWord w.property)
  have closed : interpolate data none (closeTag w.val ++ []) = closeTag w.val ++ [] :=
    interpolate_tag_append rfl tag.2 data none []
  rw [List.append_nil] at closed
  simp only [loopOver, List.append_assoc]
  rw [openTag, interpolate_tag_append rfl tag.1, interpolate_plain_append plainBefore,
    interpolate_path_append, interpolate_plain_append plainAfter, closed]

theorem expandLoops_body {elements : List Node} {w : Word}
    (listed : data.lookup? w.val = some (.list elements)) (body : Tree false false) :
    expandLoops data (openTag w.val ++ (body.print ++ closeTag w.val)) =
      (elements.zipIdx 1).flatMap fun (element, position) =>
        interpolate element (some position) body.print := by
  have plain := isPlain_of_isWord w.property
  have closed := Tree.cut?_closeTag_body plain body (by simp) []
  have replaced := @scan_block isWord (loopText data) _ _ _ w.property plain.not_mem_close closed
  have repeated : loopText data w.val body.print = repeatBody body.print elements := by
    rw [loopText, listed]
    rfl
  rw [List.append_nil] at replaced
  rw [expandLoops, replaced, repeated]
  exact List.append_nil _

theorem expandLoops_loopOver {elements : List Node} {w : Word} {path : Path}
    (plainBefore : before.IsPlain) (plainAfter : after.IsPlain)
    (listed : data.lookup? w.val = some (.list elements))
    (plainOutside : ∀ value, data.lookupText? path.body = some value → value.IsPlain) :
    expandLoops data (interpolate data none (loopOver w path.body before after)) =
      turns data elements path.body before after := by
  rw [interpolate_loopOver w path plainBefore plainAfter, markerText_eq]
  unfold turns
  simp only [Tree.valueText_some]
  cases outside : answer? data none path.body with
  | none =>
    -- the marker is still there for the elements to answer
    have body := expandLoops_body listed
      (.literal ⟨before, plainBefore⟩ (.value path (.literal ⟨after, plainAfter⟩ .nil)))
    simp only [Tree.print, List.append_nil] at body
    refine body.trans (List.flatMap_congr fun turn _ => ?_)
    have behind := interpolate_plain_append plainAfter turn.1 (some turn.2) []
    rw [List.append_nil] at behind
    rw [interpolate_plain_append plainBefore, interpolate_path_append, behind, markerText_eq]
    simp [interpolate, scan]
  | some value =>
    -- the elements are not asked
    have plain := plainOutside value outside
    have body := expandLoops_body listed
      (.literal ⟨before, plainBefore⟩ (.literal ⟨value, plain⟩ (.literal ⟨after, plainAfter⟩ .nil)))
    simp only [Tree.print, List.append_nil] at body
    refine body.trans (List.flatMap_congr fun turn _ => ?_)
    have whole := plainBefore.append (plain.append plainAfter)
    have kept := interpolate_plain_append whole turn.1 (some turn.2) []
    rw [List.append_nil] at kept
    rw [kept]
    simp [interpolate, scan]

theorem render_loopOver {front back : Text} {elements : List Node} {w : Word} {path : Path}
    (plainFront : front.IsPlain) (plainBack : back.IsPlain) (plainBefore : before.IsPlain)
    (plainAfter : after.IsPlain) (listed : data.lookup? w.val = some (.list elements))
    (plainOutside : ∀ value, data.lookupText? path.body = some value → value.IsPlain) :
    render (front ++ (loopOver w path.body before after ++ back)) data =
      front ++ (applyConditions data (turns data elements path.body before after) ++ back) := by
  have first : interpolate data none (front ++ (loopOver w path.body before after ++ back)) = _ :=
    scan_between (delimited_replaceMarker data none) plainFront plainBack _
  have second (t : Text) : expandLoops data (front ++ (t ++ back)) = _ :=
    scan_between (delimited_block isWord (loopText data)) plainFront plainBack t
  have third (t : Text) : applyConditions data (front ++ (t ++ back)) = _ :=
    scan_between (delimited_block isCondition (conditionText data)) plainFront plainBack t
  rw [render, first, second, third, ← interpolate, ← expandLoops, ← applyConditions,
    expandLoops_loopOver plainBefore plainAfter listed plainOutside]

theorem applyConditions_turns {elements : List Node} {name : FieldName}
    (plainBefore : before.IsPlain) (plainAfter : after.IsPlain)
    (plainOutside : ∀ value, data.lookupText? name.body = some value → value.IsPlain)
    (plainInside : ∀ element ∈ elements, ∀ value,
      element.lookupText? name.body = some value → value.IsPlain) :
    applyConditions data (turns data elements name.body before after) =
      turns data elements name.body before after := by
  have delimited := delimited_block isCondition (conditionText data)
  have shown (element : Node) (mem : element ∈ elements) (position : Nat) (t : Text) :
      applyConditions data (valueText data (some ⟨element, position⟩) name.body ++ t) =
        valueText data (some ⟨element, position⟩) name.body ++ applyConditions data t := by
    rw [name.valueText_eq]
    cases answer : (data.lookupText? name.body).or (element.lookupText? name.body) with
    | none =>
      exact scan_marker_append delimited name.plain (by simp [block?_path_append])
    | some value =>
      refine scan_plain_append delimited ?_ t
      rcases Option.or_eq_some_iff.mp answer with outside | ⟨_, inside⟩
      · exact plainOutside value outside
      · exact plainInside element mem value inside
  unfold turns
  have among : ∀ turn ∈ elements.zipIdx 1, turn.1 ∈ elements :=
    fun _ mem => List.fst_mem_of_mem_zipIdx mem
  generalize elements.zipIdx 1 = positioned at among
  induction positioned with
  | nil => rfl
  | cons turn positioned ih =>
    have here := shown turn.1 (among turn List.mem_cons_self) turn.2
    have there := ih fun other mem => among other (List.mem_cons_of_mem _ mem)
    rw [List.flatMap_cons, List.append_assoc, List.append_assoc, applyConditions,
      scan_plain_append delimited plainBefore, ← applyConditions, here, applyConditions,
      scan_plain_append delimited plainAfter, ← applyConditions, there]

/-- A loop over a marker for a field shows, turn by turn, the text that the page has under that
name, else the field of the element; unless these texts make up a condition. So a field of an
element is shown exactly if the page has no other text of that name. -/
theorem render_field_iff {front back : Text} {elements : List Node} {w : Word} {name : FieldName}
    (plainFront : front.IsPlain) (plainBack : back.IsPlain) (plainBefore : before.IsPlain)
    (plainAfter : after.IsPlain) (listed : data.lookup? w.val = some (.list elements))
    (plainOutside : ∀ value, data.lookupText? name.body = some value → value.IsPlain) :
    (render (front ++ (loopOver w name.body before after ++ back)) data =
        front ++ (turns data elements name.body before after ++ back) ↔
      NoBlock isCondition (turns data elements name.body before after)) ∧
    ((∀ element ∈ elements, ∀ value,
        element.lookupText? name.body = some value → value.IsPlain) →
      render (front ++ (loopOver w name.body before after ++ back)) data =
        front ++ (turns data elements name.body before after ++ back)) ∧
    ∀ fields position value, (Keyed.get? name.body fields).bind Node.text? = some value →
      (valueText data (some ⟨.group fields, position⟩) name.body = value ↔
        ∀ other, data.lookupText? name.body = some other → other = value) := by
  have page : render (front ++ (loopOver w name.body before after ++ back)) data = _ :=
    render_loopOver plainFront plainBack plainBefore plainAfter listed plainOutside
  refine ⟨?_, fun plainInside => ?_, fun fields position value own => ?_⟩
  · rw [page, List.append_cancel_left_eq, List.append_cancel_right_eq,
      applyConditions_eq_self_iff]
  · rw [page, applyConditions_turns plainBefore plainAfter plainOutside plainInside]
  · rw [name.valueText_eq, name.lookupText?_group, own]
    cases data.lookupText? name.body with
    | none => simp
    | some other => simp

end

def items : Word := ⟨"items".toList, by decide⟩

def icon : FieldName where
  body := "icon".toList
  plain := by decide
  ne_nil := by decide
  not_tag := rfl
  no_point := by decide
  no_bracket := by decide
  not_local := by decide

def menuContent : Node :=
  .group
    [("items".toList, .list
        [.group [("icon".toList, .text ['*']), ("title".toList, .text "One".toList)]]),
      ("title".toList, .text "Page".toList)]

theorem render_field_menu :
    Text.IsPlain "- ".toList ∧ Text.IsPlain " -".toList ∧ Text.IsPlain ['<'] ∧ Text.IsPlain ['>'] ∧
      (∃ elements, menuContent.lookup? items.val = some (.list elements) ∧ ∀ element ∈ elements,
        ∀ value, element.lookupText? icon.body = some value → value.IsPlain) ∧
      menuContent.lookupText? icon.body = none ∧
      render ("- ".toList ++ (loopOver items icon.body ['<'] ['>'] ++ " -".toList)) menuContent =
        "- <*> -".toList := by
  have inside : ∀ element ∈
      [Node.group [("icon".toList, .text ['*']), ("title".toList, .text "One".toList)]],
      ∀ value, element.lookupText? icon.body = some value → value.IsPlain := by
    intro element mem value shown
    rw [List.mem_singleton.mp mem, show Node.lookupText? _ _ = some ['*'] by decide] at shown
    rw [← Option.some.inj shown]
    decide
  have outside : menuContent.lookupText? icon.body = none := by decide
  refine ⟨by decide, by decide, by decide, by decide, ⟨_, rfl, inside⟩, outside, ?_⟩
  have page := (@render_field_iff menuContent ['<'] ['>'] "- ".toList " -".toList _ items icon
    (by decide) (by decide) (by decide) (by decide) rfl
    (fun value shown => by rw [outside] at shown; cases shown)).2.1 inside
  exact page.trans (by decide)

/-- The title of the item is not shown, as the page has a title. -/
theorem render_title_menu :
    (∃ element, menuContent.lookup? items.val = some (.list [element]) ∧
      element.lookupText? "title".toList = some "One".toList) ∧
      render (loopOver items "title".toList [] []) menuContent = "Page".toList :=
  ⟨⟨_, rfl, by decide⟩, by decide⟩

end Pagecraft.Template
