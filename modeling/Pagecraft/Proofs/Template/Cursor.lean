import Pagecraft.Proofs.Template.Slice

/-! How a scan goes through a text. The offsets of a scan stand for a place in the text: what it is done
with, what is pending, and what is ahead. A turn goes from one place to another one with less ahead, so
a scan ends, and its offsets are boundaries in order all the time. -/
namespace Pagecraft.Sliced
open Text Template

theorem find?_of_noneIn {mark before after : Text} (ne : mark ≠ [])
    (absent : NoneIn (mark <+: ·) before (mark ++ after)) :
    find? mark (before ++ (mark ++ after)) = some (byteCount before) := by
  rw [find?, cut?_of_noneIn ne absent]
  rfl

theorem find?_of_noneIn_nil {mark t : Text} (ne : mark ≠ []) (absent : NoneIn (mark <+: ·) t []) :
    find? mark t = none := by
  rw [find?, Option.map_eq_none_iff, Option.eq_none_iff_forall_ne_some]
  rintro ⟨before, after⟩ cut
  have whole : t = before ++ (mark ++ after) := by
    rw [eq_append_of_cut? cut, List.append_assoc]
  refine absent (mark ++ after) ?_ ⟨before, whole.symm⟩ ?_
  · exact List.append_ne_nil_of_left_ne_nil ne after
  · rw [List.append_nil]
    exact List.prefix_append mark after

/-- A replacer that does at every boundary what a replacement does with the text there. What is replaced
begins with `{{`, and something of it is taken away. -/
structure Realizes (replacer : Replacer) (replace : Text → Option (Text × Text)) : Prop where
  here : ∀ front t, replacer (front ++ t) (byteCount front) =
    pure ((replace t).map fun (text, rest) => (text, behind (front ++ t) rest))
  elsewhere : ∀ source start, ¬IsBoundary source start → replacer source start = pure none
  eq_none : ∀ t, ¬opens t → replace t = none
  takes : ∀ t text rest, replace t = some (text, rest) → ∃ taken, taken ≠ [] ∧ t = taken ++ rest

variable {replacer : Replacer} {replace : Text → Option (Text × Text)}

theorem Realizes.scan_append (realizes : Realizes replacer replace) {u t : Text}
    (absent : NoneIn (['{', '{'] <+: ·) u t) :
    Template.scan replace 0 (u ++ t) = u ++ Template.scan replace 0 t := by
  refine scan_append_of_forall fun s ne suffix => realizes.eq_none _ ?_
  exact fun opened => absent s ne suffix (opens_iff.mp opened)

/-- Where a scan is in a text: what it has put out, the text that it is done with, what is pending to be
copied, and what is ahead. -/
structure Place where
  out : Text
  done : Text
  pending : Text
  ahead : Text

namespace Place

def source (place : Place) : Text := place.done ++ place.pending ++ place.ahead

def scan (place : Place) : Scan :=
  ⟨place.out, byteCount place.done, byteCount (place.done ++ place.pending)⟩

/-- One turn in a text: nothing begins any more, or what begins first is passed by or replaced. -/
inductive Turn (replace : Text → Option (Text × Text)) : Place → Option Place → Prop
  | ends {out done pending ahead : Text} :
      NoneIn (['{', '{'] <+: ·) ahead [] → Turn replace ⟨out, done, pending, ahead⟩ none
  | passes {out done pending u inner : Text} :
      NoneIn (['{', '{'] <+: ·) u ('{' :: '{' :: inner) → replace ('{' :: '{' :: inner) = none →
      Turn replace ⟨out, done, pending, u ++ '{' :: '{' :: inner⟩
        (some ⟨out, done, pending ++ u ++ ['{'], '{' :: inner⟩)
  | replaces {out done pending u taken text rest : Text} :
      NoneIn (['{', '{'] <+: ·) u (taken ++ rest) → ['{', '{'] <+: taken ++ rest → taken ≠ [] →
      replace (taken ++ rest) = some (text, rest) →
      Turn replace ⟨out, done, pending, u ++ (taken ++ rest)⟩
        (some ⟨out ++ (pending ++ u) ++ text, done ++ pending ++ u ++ taken, [], rest⟩)

theorem exists_turn (realizes : Realizes replacer replace) (place : Place) :
    ∃ next, Turn replace place next := by
  obtain ⟨out, done, pending, ahead⟩ := place
  rcases noneIn_or_exists_first (['{', '{'] <+: ·) ahead with nowhere | first
  · exact ⟨_, .ends nowhere⟩
  · obtain ⟨u, v, rfl, begins, absent⟩ := first
    cases found : replace v with
    | none =>
      obtain ⟨inner, rfl⟩ := begins
      exact ⟨_, .passes absent found⟩
    | some answer =>
      obtain ⟨taken, ne, rfl⟩ := realizes.takes v answer.1 answer.2 found
      exact ⟨_, .replaces absent begins ne found⟩

variable {place next : Place}

theorem Turn.source_eq (moved : Turn replace place (some next)) : next.source = place.source := by
  cases moved <;> simp [Place.source]

theorem Turn.length_lt (moved : Turn replace place (some next)) :
    next.ahead.length < place.ahead.length := by
  cases moved with
  | passes =>
    simp only [List.length_append, List.length_cons]
    omega
  | replaces _ _ ne =>
    have some_taken := List.length_pos_iff.mpr ne
    simp only [List.length_append]
    omega

theorem Turn.cursor_lt (moved : Turn replace place (some next)) :
    place.scan.cursor < next.scan.cursor := by
  have mark : byteCount ['{'] = 1 := rfl
  cases moved with
  | passes =>
    simp only [Place.scan, byteCount_append, mark]
    omega
  | replaces _ _ ne =>
    have some_taken : byteCount _ ≠ 0 := mt byteCount_eq_zero_iff.mp ne
    simp only [Place.scan, byteCount_append, byteCount_nil]
    omega

theorem Turn.text_eq (realizes : Realizes replacer replace) (moved : Turn replace place (some next)) :
    next.out ++ next.pending ++ Template.scan replace 0 next.ahead =
      place.out ++ place.pending ++ Template.scan replace 0 place.ahead := by
  cases moved with
  | @passes _ _ _ u inner absent closed =>
    have one : Template.scan replace 0 ('{' :: '{' :: inner) =
        '{' :: Template.scan replace 0 ('{' :: inner) := by
      rw [Template.scan, closed]
    rw [realizes.scan_append absent, one]
    simp
  | replaces absent _ ne found =>
    rw [realizes.scan_append absent, scan_append_of_eq_some ne found]
    simp

theorem turn_append (realizes : Realizes replacer replace) (out done pending : Text) {u v : Text}
    (absent : NoneIn (['{', '{'] <+: ·) u v) (begins : ['{', '{'] <+: v) :
    turn replacer (done ++ pending ++ (u ++ v)) ⟨out, byteCount done, byteCount (done ++ pending)⟩ =
      match replace v with
      | some (text, rest) =>
        let stop := behind (done ++ pending ++ (u ++ v)) rest
        pure (some ⟨out ++ (pending ++ u) ++ text, stop, stop⟩)
      | none => pure (some ⟨out, byteCount done, byteCount (done ++ pending) + byteCount u + 1⟩) := by
  obtain ⟨inner, rfl⟩ := begins
  have answer := realizes.here (done ++ pending ++ u) (['{', '{'] ++ inner)
  rw [List.append_assoc _ u, byteCount_append _ u] at answer
  have kept := slice_append done (pending ++ u) (['{', '{'] ++ inner)
  rw [← List.append_assoc done, byteCount_append _ u, List.append_assoc _ u] at kept
  rw [turn, sliceFrom_append, pure_bind, find?_of_noneIn (List.cons_ne_nil _ _) absent]
  dsimp only
  rw [answer, pure_bind]
  cases replace (['{', '{'] ++ inner) with
  | none => rfl
  | some found =>
    dsimp only [Option.map_some]
    rw [kept, pure_bind]

theorem Turn.turn_eq (realizes : Realizes replacer replace) {next : Option Place}
    (moved : Turn replace place next) :
    turn replacer place.source place.scan = pure (next.map Place.scan) := by
  cases moved with
  | ends absent =>
    rw [turn, Place.source, Place.scan, sliceFrom_append, pure_bind,
      find?_of_noneIn_nil (List.cons_ne_nil _ _) absent]
    rfl
  | @passes out done pending u inner absent closed =>
    have cursor : byteCount (done ++ (pending ++ u ++ ['{'])) =
        byteCount (done ++ pending) + byteCount u + 1 := by
      simp only [byteCount_append, Nat.add_assoc]
      rfl
    rw [Place.source, Place.scan, turn_append realizes _ _ _ absent ⟨inner, rfl⟩, closed,
      Option.map_some, Place.scan, cursor]
  | @replaces out done pending u taken text rest absent begins _ found =>
    have stop : behind (done ++ pending ++ (u ++ (taken ++ rest))) rest =
        byteCount (done ++ pending ++ u ++ taken) := by
      rw [← List.append_assoc, ← List.append_assoc, behind_append]
    simp only [Place.source, Place.scan, Option.map_some, List.append_nil]
    rw [turn_append realizes _ _ _ absent begins, found]
    dsimp only
    rw [stop]

end Place

theorem scanFrom_eq (realizes : Realizes replacer replace) (place : Place) :
    scanFrom replacer place.source place.scan =
      pure (place.out ++ place.pending ++ Template.scan replace 0 place.ahead) := by
  -- on the length of what is ahead, which each turn makes shorter
  induction len : place.ahead.length using Nat.strongRecOn generalizing place with
  | _ n ih =>
    subst len
    obtain ⟨next, moved⟩ := Place.exists_turn realizes place
    have turned := moved.turn_eq realizes
    cases next with
    | some next =>
      have further : proceed replacer place.source place.scan = pure (.inl next.scan) := by
        rw [proceed, turned, pure_bind]
        rfl
      have later := ih next.ahead.length moved.length_lt next rfl
      rw [moved.source_eq, moved.text_eq realizes] at later
      exact (repeatM_of_eq_inl further).trans later
    | none =>
      cases moved with
      | @ends out done pending ahead absent =>
        have copied := realizes.scan_append absent
        have rest := sliceFrom_append done (pending ++ ahead)
        rw [Template.scan, List.append_nil] at copied
        rw [← List.append_assoc] at rest
        apply repeatM_of_eq_inr
        rw [proceed, turned, pure_bind]
        simp only [Place.source, Place.scan, Option.map_none, rest, pure_bind, copied]
        rw [List.append_assoc]

theorem scan_eq (realizes : Realizes replacer replace) (source : Text) :
    scan replacer source = pure (Template.scan replace 0 source) :=
  scanFrom_eq realizes ⟨[], [], [], source⟩

/-! What holds between the turns of a scan -/

structure Holds (source : Text) (scan : Scan) : Prop where
  ordered : scan.copied ≤ scan.cursor
  within : scan.cursor ≤ byteCount source
  copied : IsBoundary source scan.copied
  cursor : IsBoundary source scan.cursor

inductive Reaches (replacer : Replacer) (source : Text) : Scan → Prop
  | start : Reaches replacer source .start
  | turn {scan next : Scan} : Reaches replacer source scan →
      turn replacer source scan = pure (some next) → Reaches replacer source next

theorem Place.holds (place : Place) : Holds place.source place.scan where
  ordered := by
    simp only [Place.scan, byteCount_append]
    omega
  within := by
    simp only [Place.scan, Place.source, byteCount_append]
    omega
  copied := by
    rw [Place.source, List.append_assoc]
    exact isBoundary_append place.done _
  cursor := isBoundary_append _ _

theorem Holds.exists_place {source : Text} {scan : Scan} (holds : Holds source scan) :
    ∃ place : Place, place.source = source ∧ place.scan = scan := by
  obtain ⟨out, copied, cursor⟩ := scan
  obtain ⟨done, pending, ahead, rfl, copied, cursor⟩ :=
    exists_between holds.ordered holds.copied holds.cursor
  refine ⟨⟨out, done, pending, ahead⟩, rfl, ?_⟩
  rw [Place.scan, copied, cursor]

theorem Holds.turn (realizes : Realizes replacer replace) {source : Text} {scan : Scan}
    (holds : Holds source scan) :
    ∃ next, turn replacer source scan = pure next ∧
      ∀ later, next = some later → Holds source later ∧ scan.cursor < later.cursor := by
  obtain ⟨place, rfl, rfl⟩ := holds.exists_place
  obtain ⟨next, moved⟩ := place.exists_turn realizes
  refine ⟨_, moved.turn_eq realizes, ?_⟩
  rintro later eq
  obtain ⟨next, rfl, rfl⟩ := Option.map_eq_some_iff.mp eq
  refine ⟨?_, moved.cursor_lt⟩
  rw [← moved.source_eq]
  exact next.holds

theorem Reaches.holds (realizes : Realizes replacer replace) {source : Text} {scan : Scan}
    (reached : Reaches replacer source scan) : Holds source scan := by
  induction reached with
  | start => exact Place.holds ⟨[], [], [], source⟩
  | turn _ turned ih =>
    obtain ⟨next, turned', forward⟩ := ih.turn realizes
    rw [turned] at turned'
    cases turned'
    exact (forward _ rfl).1

theorem Realizes.exists_answer (realizes : Realizes replacer replace) (source : Text) (start : Nat) :
    ∃ answer, replacer source start = pure answer ∧ ∀ text stop, answer = some (text, stop) →
      start < stop ∧ stop ≤ byteCount source ∧ IsBoundary source stop := by
  by_cases boundary : IsBoundary source start
  · obtain ⟨front, t, rfl, rfl⟩ := boundary
    refine ⟨_, realizes.here front t, ?_⟩
    intro text stop eq
    obtain ⟨⟨_, rest⟩, found, eq⟩ := Option.map_eq_some_iff.mp eq
    cases eq
    obtain ⟨taken, ne, rfl⟩ := realizes.takes t text rest found
    have some_taken : byteCount taken ≠ 0 := mt byteCount_eq_zero_iff.mp ne
    have stops := isBoundary_append (front ++ taken) rest
    rw [List.append_assoc] at stops
    rw [behind_append_append, ← byteCount_append]
    refine ⟨?_, stops.le, stops⟩
    rw [byteCount_append]
    omega
  · exact ⟨none, realizes.elsewhere source start boundary, fun _ _ eq => by cases eq⟩

end Pagecraft.Sliced
