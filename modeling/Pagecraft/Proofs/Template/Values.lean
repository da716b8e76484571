import Pagecraft.Proofs.Template.Syntax

/-! What becomes of a value on its way into the page. The first pass puts it in as it is, but the
two later passes read it again: a value is shown as it is exactly if they find nothing to do in
it. -/
namespace Pagecraft.Template
open Text

section
variable {replace : Text → Option (Text × Text)}

theorem scan_eq_self {t : Text} (h : ∀ s, s <:+ t → replace s = none) : scan replace 0 t = t := by
  have copied : scan replace 0 (t ++ []) = t ++ scan replace 0 [] := by
    refine scan_append_of_forall fun s _ suffix => ?_
    rw [List.append_nil]
    exact h s suffix
  simpa [scan] using copied

def Shrinks (replace : Text → Option (Text × Text)) : Prop :=
  ∀ t replacement rest, replace t = some (replacement, rest) →
    replacement.length + rest.length < t.length

theorem length_scan_le (shrinks : Shrinks replace) (t : Text) (covered : Nat) :
    (scan replace covered t).length ≤ t.length - covered := by
  induction t generalizing covered with
  | nil => simp [scan]
  | cons c t ih =>
    cases covered with
    | succ covered =>
      have := ih covered
      simp only [scan, List.length_cons]
      omega
    | zero =>
      rw [scan]
      cases answer : replace (c :: t) with
      | none =>
        have := ih 0
        simp only [List.length_cons]
        omega
      | some parts =>
        obtain ⟨replacement, rest⟩ := parts
        have := shrinks _ _ _ answer
        have := ih (t.length - rest.length)
        simp only [List.length_append, List.length_cons] at *
        omega

theorem eq_none_of_scan_eq_self (shrinks : Shrinks replace) {t : Text}
    (same : scan replace 0 t = t) : ∀ s, s <:+ t → s ≠ [] → replace s = none := by
  induction t with
  | nil =>
    intro s suffix ne
    exact absurd (List.suffix_nil.mp suffix) ne
  | cons c t ih =>
    rw [scan] at same
    cases answer : replace (c :: t) with
    | none =>
      rw [answer] at same
      intro s suffix ne
      rcases List.suffix_cons_iff.mp suffix with rfl | suffix
      · exact answer
      · exact ih (List.cons.inj same).2 s suffix ne
    | some parts =>
      obtain ⟨replacement, rest⟩ := parts
      rw [answer] at same
      -- A replacement makes the text shorter, and nothing behind it makes up for that.
      have short := shrinks _ _ _ answer
      have tail := length_scan_le shrinks t (t.length - rest.length)
      have := congrArg List.length same
      simp only [List.length_append, List.length_cons] at *
      omega

end

/-- No closed block of an accepted name stands anywhere in the text. -/
def NoBlock (accept : Text → Bool) (t : Text) : Prop := ∀ s, s <:+ t → block? accept s = none

theorem shrinks_conditions (data : Node) :
    Shrinks fun t => (block? isCondition t).map fun b =>
      (conditionText data b.name b.body, b.rest) := by
  intro t replacement rest h
  obtain ⟨b, found, eq⟩ := Option.map_eq_some_iff.mp h
  cases eq
  have kept : (conditionText data b.name b.body).length ≤ b.body.length := by
    rw [conditionText]
    split <;> simp
  rw [(eq_append_of_block? found).2]
  simp only [List.length_append, openTag, closeTag, marker_eq, List.length_cons]
  omega

theorem applyConditions_eq_self_iff (data : Node) (t : Text) :
    applyConditions data t = t ↔ NoBlock isCondition t := by
  constructor
  · intro same s suffix
    by_cases empty : s = []
    · rw [empty]
      rfl
    · exact Option.map_eq_none_iff.mp
        (eq_none_of_scan_eq_self (shrinks_conditions data) same s suffix empty)
  · intro none
    exact scan_eq_self fun s suffix => by rw [none s suffix]; rfl

theorem expandLoops_eq_self (data : Node) {t : Text} (none : NoBlock isWord t) :
    expandLoops data t = t :=
  scan_eq_self fun s suffix => by rw [none s suffix]; rfl

/-! The text around a marker -/

theorem scan_between {replace : Text → Option (Text × Text)} (delimited : Delimited replace)
    {before after : Text} (plainBefore : before.IsPlain) (plainAfter : after.IsPlain) (t : Text) :
    scan replace 0 (before ++ (t ++ after)) = before ++ (scan replace 0 t ++ after) := by
  rw [scan_plain_append delimited plainBefore,
    scan_append_right delimited plainAfter.not_mem_close t 0 (Nat.zero_le _)]

theorem interpolate_marker {data : Node} {path : Path} {value : Text}
    (shown : data.lookupText? path.body = some value) :
    interpolate data none (marker path.body) = value := by
  have replaced : scan (replaceMarker data none) 0 (marker path.body ++ []) =
      value ++ scan (replaceMarker data none) 0 [] := by
    refine scan_append_of_eq_some (by simp [marker_eq]) ?_
    rw [replaceMarker, marker?_marker_append path.ne_nil path.plain.not_mem_close]
    simp [path.not_tag, markerText, shown]
  simpa [scan, interpolate] using replaced

theorem render_between {data : Node} {path : Path} {value before after : Text}
    (plainBefore : before.IsPlain) (plainAfter : after.IsPlain)
    (shown : data.lookupText? path.body = some value) :
    render (before ++ (marker path.body ++ after)) data =
      before ++ (applyConditions data (expandLoops data value) ++ after) := by
  have first : interpolate data none (before ++ (marker path.body ++ after)) = _ :=
    scan_between (delimited_replaceMarker data none) plainBefore plainAfter _
  have second : expandLoops data (before ++ (value ++ after)) = _ :=
    scan_between (delimited_block isWord (loopText data)) plainBefore plainAfter _
  have third : applyConditions data (before ++ (expandLoops data value ++ after)) = _ :=
    scan_between (delimited_block isCondition (conditionText data)) plainBefore plainAfter _
  rw [← interpolate, interpolate_marker shown] at first
  rw [← expandLoops] at second
  rw [← applyConditions] at third
  rw [render, first, second, third]

/-- A value is shown as it is exactly if the loops and conditions in it come to what they are
written as. A value without a closed loop must have no closed condition either. -/
theorem render_value_eq_iff {data : Node} {path : Path} {value before after : Text}
    (plainBefore : before.IsPlain) (plainAfter : after.IsPlain)
    (shown : data.lookupText? path.body = some value) :
    (render (before ++ (marker path.body ++ after)) data = before ++ (value ++ after) ↔
      applyConditions data (expandLoops data value) = value) ∧
    (NoBlock isWord value →
      (render (before ++ (marker path.body ++ after)) data = before ++ (value ++ after) ↔
        NoBlock isCondition value)) := by
  have exactly : render (before ++ (marker path.body ++ after)) data =
      before ++ (value ++ after) ↔ applyConditions data (expandLoops data value) = value := by
    rw [render_between plainBefore plainAfter shown, List.append_cancel_left_eq,
      List.append_cancel_right_eq]
  refine ⟨exactly, fun none => ?_⟩
  rw [exactly, expandLoops_eq_self data none, applyConditions_eq_self_iff]

def markerInContent : Node :=
  .group [(['a'], .text (marker ['b'])), (['b'], .text "never shown".toList)]

theorem render_markerInContent :
    Text.IsPlain ['<'] ∧ Text.IsPlain ['>'] ∧
      markerInContent.lookupText? ['a'] = some (marker ['b']) ∧
      render (['<'] ++ (marker ['a'] ++ ['>'])) markerInContent =
        ['<'] ++ (marker ['b'] ++ ['>']) := by
  let path : Path := ⟨['a'], by decide, by decide, rfl⟩
  have shown : markerInContent.lookupText? path.body = some (marker ['b']) := by decide
  refine ⟨by decide, by decide, shown, ?_⟩
  exact (render_value_eq_iff (by decide) (by decide) shown).1.mpr (by decide)

def blockInContent : Node :=
  .group [("a".toList, .text (openTag ['x'] ++ ('y' :: closeTag ['x'])))]

/-- A loop over nothing is dropped from the page, though it is no part of the template. -/
theorem render_blockInContent :
    blockInContent.lookupText? ['a'] = some (openTag ['x'] ++ ('y' :: closeTag ['x'])) ∧
      render (marker ['a']) blockInContent = [] := by decide

end Pagecraft.Template
