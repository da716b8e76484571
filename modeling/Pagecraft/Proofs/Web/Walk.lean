import Mathlib.Data.List.Basic
import Pagecraft.Proofs.Text.Lower
import Pagecraft.Web.Join

/-! Walking along the segments of a relative path. A walk that never goes up from where it starts
ends below it; any other walk forgets the segment above. -/
namespace Pagecraft.Url

/-- Whether a walk never goes up from where it starts. The first argument is what has been walked
so far below that place. -/
def staysBelow (below : List Text) : List Text → Bool
  | [] => true
  | segment :: rest =>
    (!isUp segment || !below.isEmpty) && staysBelow (step below segment) rest

theorem up_append (start : List Text) {below : List Text} (h : below ≠ []) :
    up (start ++ below) = start ++ up below := by
  unfold up
  rw [List.getLast?_append_of_ne_nil start h, List.dropLast_append_of_ne_nil h]
  split <;> rfl

theorem step_append (start : List Text) {below : List Text} {segment : Text}
    (h : isUp segment → below ≠ []) :
    step (start ++ below) segment = start ++ step below segment := by
  unfold step
  split
  case isTrue goesUp => exact up_append start (h goesUp)
  case isFalse =>
    split
    · rfl
    · rw [List.append_assoc]

/-- The last segment, before which a walk is in a directory. -/
def finish (start : List Text) (last : Text) : List Text :=
  if isUp last || isStay last then step start last ++ [[]] else step start last

theorem walk_singleton (start : List Text) (last : Text) : walk start [last] = finish start last :=
  rfl

theorem walk_cons_cons (start : List Text) (segment next : Text) (rest : List Text) :
    walk start (segment :: next :: rest) = walk (step start segment) (next :: rest) := rfl

theorem finish_append (start : List Text) {below : List Text} {last : Text}
    (h : isUp last → below ≠ []) : finish (start ++ below) last = start ++ finish below last := by
  unfold finish
  rw [step_append start h]
  split
  · rw [List.append_assoc]
  · rfl

theorem finish_ne_nil (start : List Text) (last : Text) : finish start last ≠ [] := by
  unfold finish
  split
  case isTrue => simp
  case isFalse neither =>
    rw [Bool.or_eq_true, not_or] at neither
    rw [step, if_neg neither.1, if_neg neither.2]
    simp

theorem walk_ne_nil (start : List Text) {segments : List Text} (h : segments ≠ []) :
    walk start segments ≠ [] := by
  induction segments generalizing start with
  | nil => exact absurd rfl h
  | cons segment rest ih =>
    cases rest with
    | nil => exact finish_ne_nil start segment
    | cons next rest => exact ih (step start segment) (List.cons_ne_nil next rest)

theorem staysBelow_cons {below rest : List Text} {segment : Text} :
    staysBelow below (segment :: rest) ↔
      (isUp segment → below ≠ []) ∧ staysBelow (step below segment) rest := by
  cases up : isUp segment <;> cases below <;> simp [staysBelow, up]

theorem walk_append (start : List Text) {below segments : List Text}
    (stays : staysBelow below segments) :
    walk (start ++ below) segments = start ++ walk below segments := by
  induction segments generalizing below with
  | nil => rfl
  | cons segment rest ih =>
    obtain ⟨here, later⟩ := staysBelow_cons.mp stays
    cases rest with
    | nil => exact finish_append start here
    | cons next rest =>
      rw [walk_cons_cons, walk_cons_cons, step_append start here]
      exact ih later

theorem exists_walk_eq {below segments : List Text} (leaves : ¬staysBelow below segments) :
    ∃ result, ∀ name, ¬isDrive name → walk (name :: below) segments = result := by
  induction segments generalizing below with
  | nil => exact absurd rfl leaves
  | cons segment rest ih =>
    by_cases here : isUp segment → below ≠ []
    · have later : ¬staysBelow (step below segment) rest := by
        intro stays
        exact leaves (staysBelow_cons.mpr ⟨here, stays⟩)
      obtain ⟨result, ends⟩ := ih later
      refine ⟨result, fun name plain => ?_⟩
      cases rest with
      | nil => exact absurd rfl later
      | cons next rest =>
        have same : step (name :: below) segment = name :: step below segment :=
          step_append [name] here
        rw [walk_cons_cons, same, ends name plain]
    · -- the walk goes up from the directory, whatever its name
      push Not at here
      obtain ⟨goesUp, rfl⟩ := here
      have gone : ∀ name, ¬isDrive name → step [name] segment = [] := by
        intro name plain
        rw [step, if_pos goesUp, up, if_neg (by simpa using plain)]
        rfl
      cases rest with
      | nil =>
        refine ⟨[[]], fun name plain => ?_⟩
        rw [walk_singleton, finish, gone name plain, goesUp]
        rfl
      | cons next rest =>
        refine ⟨walk [] (next :: rest), fun name plain => ?_⟩
        rw [walk_cons_cons, gone name plain]

theorem eq_of_isUp {segment : Text} (plain : '%' ∉ segment) (goesUp : isUp segment) :
    segment = ['.', '.'] := by
  rw [isUp, List.contains_iff_mem] at goesUp
  have absent : '%' ∉ Text.lower segment := fun mem =>
    plain (Text.mem_of_mem_lower (by decide) mem)
  have dots : Text.lower segment = ['.', '.'] := by
    simp only [List.mem_cons, List.not_mem_nil, or_false] at goesUp
    rcases goesUp with eq | eq | eq | eq
    · exact eq
    all_goals
      rw [eq] at absent
      exact absurd (by decide) absent
  exact Text.eq_of_lower_eq (by decide) dots

theorem staysBelow_of_dropLast {below segments : List Text} (inner : below ≠ [])
    (none : ∀ segment ∈ segments.dropLast, ¬isUp segment) : staysBelow below segments := by
  induction segments generalizing below with
  | nil => rfl
  | cons segment rest ih =>
    refine staysBelow_cons.mpr ⟨fun _ => inner, ?_⟩
    cases rest with
    | nil => rfl
    | cons next rest =>
      rw [List.dropLast_cons_cons, List.forall_mem_cons] at none
      have further : step below segment ≠ [] := by
        rw [step, if_neg none.1]
        split
        · exact inner
        · simp
      exact ih further none.2

/-! The text of a path -/

theorem segmentsText_append (front back : List Text) :
    segmentsText (front ++ back) = segmentsText front ++ segmentsText back := List.flatMap_append

theorem segmentsText_directory (front : List Text) {back : List Text} (h : back ≠ []) :
    segmentsText (front ++ [[]]) <+: segmentsText (front ++ back) := by
  rw [segmentsText_append, segmentsText_append, List.prefix_append_right_inj]
  cases back with
  | nil => exact absurd rfl h
  | cons segment rest => exact ⟨segment ++ segmentsText rest, rfl⟩

end Pagecraft.Url
