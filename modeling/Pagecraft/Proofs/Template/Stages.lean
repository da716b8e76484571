import Pagecraft.Proofs.Template.Cursor

/-! The passes of a rendering by slices. Each of them makes of a text what it makes of it without offsets,
so a rendering takes no slice that fails. -/
namespace Pagecraft.Sliced
open Text Template

theorem markValue_eq (scope : Node) (index : Option Nat) (body : Text) :
    ∃ value, markValue scope index body = pure value ∧
      markerText scope index body = value.getD (marker body) := by
  unfold markValue markerText
  cases index with
  | none => exact ⟨_, lookupText_eq body scope, rfl⟩
  | some position =>
    by_cases asks : body = indexMarker
    · refine ⟨some (ofNat position), ?_, ?_⟩ <;> simp [asks]
    · refine ⟨scope.lookupText? body, ?_, ?_⟩
      · simpa [asks] using lookupText_eq body scope
      · simp [asks]

theorem realizes_replaceMark (scope : Node) (index : Option Nat) :
    Realizes (replaceMark scope index) (replaceMarker scope index) where
  here front t := by
    rw [replaceMark, replaceMarker, mark_append, pure_bind]
    cases read : marker? t with
    | none => rfl
    | some parts =>
      obtain ⟨body, rest⟩ := parts
      obtain ⟨_, _, rfl⟩ := marker?_eq_some_iff.mp read
      dsimp only [Option.map_some]
      cases isTag body with
      | true => rfl
      | false =>
        obtain ⟨value, found, text⟩ := markValue_eq scope index body
        rw [if_neg Bool.false_ne_true, if_neg Bool.false_ne_true, found, pure_bind, text]
        cases value with
        | some value => rfl
        | none =>
          simp only [Option.map_some, behind_append_append, slice_append_append, pure_bind]
          rfl
  elsewhere source start h := by
    rw [replaceMark, mark_of_not_isBoundary h]
    rfl
  eq_none := (delimited_replaceMarker scope index).eq_none
  takes t text rest found := by
    unfold replaceMarker at found
    split at found
    case h_1 body rest' read =>
      obtain ⟨_, _, rfl⟩ := marker?_eq_some_iff.mp read
      split at found
      case isTrue => cases found
      case isFalse =>
        cases found
        exact ⟨marker body, List.cons_ne_nil _ _, rfl⟩
    case h_2 => cases found

theorem interpolate_eq (scope : Node) (index : Option Nat) (source : Text) :
    interpolate scope index source = pure (Template.interpolate scope index source) :=
  scan_eq (realizes_replaceMark scope index) source

theorem realizes_of_region {accept : Text → Bool} {replacer : Replacer} {text : Text → Text → Text}
    (h : ∀ source start, replacer source start = do
      let found ← region accept source start
      return found.map fun block => (text block.name block.body, block.stop)) :
    Realizes replacer fun t => (block? accept t).map fun b => (text b.name b.body, b.rest) where
  here front t := by
    rw [h, region_append, pure_bind]
    cases block? accept t <;> rfl
  elsewhere source start outside := by
    rw [h, region_of_not_isBoundary outside]
    rfl
  eq_none := (delimited_block accept text).eq_none
  takes t text rest found := by
    obtain ⟨b, read, eq⟩ := Option.map_eq_some_iff.mp found
    cases eq
    refine ⟨openTag b.name ++ (b.body ++ closeTag b.name), ?_, ?_⟩
    · exact List.append_ne_nil_of_left_ne_nil (List.cons_ne_nil _ _) _
    · rw [(eq_append_of_block? read).2]
      simp only [List.append_assoc]

theorem repeatBody_eq (body : Text) (elements : List Node) :
    repeatBody body elements = pure (Template.repeatBody body elements) := by
  have turn : (fun ((element, position) : Node × Nat) => interpolate element (some position) body) =
      fun turn => pure (Template.interpolate turn.1 (some turn.2) body) :=
    funext fun _ => interpolate_eq _ _ _
  rw [repeatBody, turn, List.mapM_pure, pure_bind]
  rfl

theorem realizes_replaceLoop (data : Node) :
    Realizes (replaceLoop data) fun t =>
      (block? isWord t).map fun b => (loopText data b.name b.body, b.rest) := by
  refine realizes_of_region fun source start => ?_
  unfold replaceLoop
  refine bind_congr fun found => ?_
  cases found with
  | none => rfl
  | some block =>
    dsimp only [Option.map_some]
    rw [lookup_eq, pure_bind, loopText]
    cases (data.lookup? block.name).bind Node.items? with
    | none => rfl
    | some elements =>
      dsimp only
      rw [repeatBody_eq, pure_bind]

theorem realizes_replaceCondition (data : Node) :
    Realizes (replaceCondition data) fun t =>
      (block? isCondition t).map fun b => (conditionText data b.name b.body, b.rest) := by
  refine realizes_of_region fun source start => ?_
  unfold replaceCondition
  refine bind_congr fun found => ?_
  cases found with
  | none => rfl
  | some block =>
    dsimp only [Option.map_some]
    rw [lookupText_eq, pure_bind, conditionText, holds]
    cases data.lookupText? block.name with
    | none => rfl
    | some value => by_cases blank : value.allBlank <;> simp [blank]

namespace Stage

def replace : Stage → Text → Option (Text × Text)
  | markers scope index => replaceMarker scope index
  | loops data => fun t => (block? isWord t).map fun b => (loopText data b.name b.body, b.rest)
  | conditions data => fun t =>
    (block? isCondition t).map fun b => (conditionText data b.name b.body, b.rest)

def text : Stage → Text → Text
  | markers scope index => Template.interpolate scope index
  | loops data => expandLoops data
  | conditions data => applyConditions data

theorem realizes : (stage : Stage) → Realizes stage.replacer stage.replace
  | markers scope index => realizes_replaceMark scope index
  | loops data => realizes_replaceLoop data
  | conditions data => realizes_replaceCondition data

theorem text_eq (stage : Stage) (source : Text) :
    stage.text source = Template.scan stage.replace 0 source := by
  cases stage <;> rfl

theorem scan_eq (stage : Stage) (source : Text) :
    scan stage.replacer source = pure (stage.text source) := by
  rw [text_eq, Sliced.scan_eq stage.realizes]

end Stage

theorem render_eq (template : Text) (data : Node) :
    render template data = pure (Template.render template data) := by
  simp only [render, Stage.scan_eq, pure_bind]
  rfl

/-- A slice fails if its ends are not boundaries in order, but no slice fails that is taken to render a
template or to look up a path. Between the turns of a scan its offsets are boundaries in order, what
is replaced ends behind its start, and the cursor goes forward until the scan is over. -/
theorem every_slice_taken :
    (∀ t start stop, (∃ part, slice t start stop = pure part) ↔
      start ≤ stop ∧ IsBoundary t start ∧ IsBoundary t stop) ∧
    (∀ template data, render template data = pure (Template.render template data)) ∧
    (∀ segment node, step segment node = pure ((Segment.ofText? segment).bind node.step?)) ∧
    (∀ path node, lookup path node = pure (node.lookup? path)) ∧
    (∀ source start, (∃ found, mark source start = pure found) ∧
      ∀ accept, ∃ found, region accept source start = pure found) ∧
    ∀ (stage : Stage) (source : Text),
      scan stage.replacer source = pure (stage.text source) ∧
      (∀ start, ∃ answer, stage.replacer source start = pure answer ∧
        ∀ text stop, answer = some (text, stop) →
          start < stop ∧ stop ≤ byteCount source ∧ IsBoundary source stop) ∧
      ∀ state, Reaches stage.replacer source state → Holds source state ∧
        ∃ next, turn stage.replacer source state = pure next ∧
          ∀ later, next = some later → state.cursor < later.cursor := by
  refine ⟨fun t start stop => exists_slice_iff, render_eq, step_eq, lookup_eq, ?_, ?_⟩
  · intro source start
    exact ⟨exists_mark source start, fun accept => exists_region accept source start⟩
  · intro stage source
    refine ⟨stage.scan_eq source, stage.realizes.exists_answer source, ?_⟩
    intro state reached
    have holds := reached.holds stage.realizes
    obtain ⟨next, turned, forward⟩ := holds.turn stage.realizes
    exact ⟨holds, next, turned, fun later eq => (forward later eq).2⟩

/-- `é{{a}}b{{`, where the value of `a` is `ü`. -/
def accented : Text := 'é' :: marker ['a'] ++ ['b', '{', '{']

def accentedContent : Node := .group [(['a'], .text ['ü'])]

theorem every_slice_taken_accented :
    slice accented 1 2 = throw ⟨1, 2⟩ ∧
    render accented accentedContent = pure ['é', 'ü', 'b', '{', '{'] ∧
    Reaches (Stage.markers accentedContent none).replacer accented ⟨['é', 'ü'], 7, 9⟩ ∧
    Holds accented ⟨['é', 'ü'], 7, 9⟩ := by
  have realizes := (Stage.markers accentedContent none).realizes
  have replaced : Place.Turn (replaceMarker accentedContent none) ⟨[], [], [], accented⟩
      (some ⟨['é', 'ü'], 'é' :: marker ['a'], [], ['b', '{', '{']⟩) :=
    @Place.Turn.replaces _ [] [] [] ['é'] (marker ['a']) ['ü'] ['b', '{', '{']
      (by decide) (by decide) (by decide) (by decide)
  have passed : Place.Turn (replaceMarker accentedContent none)
      ⟨['é', 'ü'], 'é' :: marker ['a'], [], ['b', '{', '{']⟩
      (some ⟨['é', 'ü'], 'é' :: marker ['a'], ['b', '{'], ['{']⟩) :=
    @Place.Turn.passes _ ['é', 'ü'] ('é' :: marker ['a']) [] ['b'] [] (by decide) (by decide)
  have reached : Reaches (Stage.markers accentedContent none).replacer accented ⟨['é', 'ü'], 7, 9⟩ :=
    .turn (.turn .start (replaced.turn_eq realizes)) (passed.turn_eq realizes)
  obtain ⟨_, rendered, _, _, _, scans⟩ := every_slice_taken
  refine ⟨rfl, ?_, reached, ((scans _ _).2.2 _ reached).1⟩
  have shown : Template.render accented accentedContent = ['é', 'ü', 'b', '{', '{'] := by decide
  rw [rendered, shown]

end Pagecraft.Sliced
