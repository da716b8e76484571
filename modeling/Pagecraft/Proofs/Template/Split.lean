import Pagecraft.Proofs.Template.Language
import Pagecraft.Proofs.Text.First

/-! How a text falls into literals and markers. There is exactly one way to split it so that no
marker begins inside of a literal, and interpolation goes by this split: it keeps the literals as
they are and replaces the markers one by one. A body may hold `{`, so that where a marker begins is
decided from the left. -/
namespace Pagecraft.Template
open Text

structure Body where
  text : Text
  ne_nil : text ≠ []
  no_close : '}' ∉ text
  not_tag : isTag text = false

theorem Body.ext {body other : Body} (h : body.text = other.text) : body = other := by
  cases body
  cases other
  cases h
  rfl

def Begins (t : Text) : Prop := ∃ (body : Body) (rest : Text), t = marker body.text ++ rest

theorem begins_marker (body : Body) (rest : Text) : Begins (marker body.text ++ rest) :=
  ⟨body, rest, rfl⟩

theorem begins_iff {t : Text} : Begins t ↔ (marker? t).any fun parts => !isTag parts.1 := by
  constructor
  · rintro ⟨body, rest, rfl⟩
    rw [marker?_marker_append body.ne_nil body.no_close]
    simp [body.not_tag]
  · intro read
    obtain ⟨⟨body, rest⟩, found, noTag⟩ := (Option.any_eq_true _ _).mp read
    obtain ⟨ne, noClose, rfl⟩ := marker?_eq_some_iff.mp found
    exact ⟨⟨body, ne, noClose, by simpa using noTag⟩, rest, rfl⟩

instance (t : Text) : Decidable (Begins t) := decidable_of_iff' _ begins_iff

theorem marker_append_inj {body other : Body} {rest others : Text}
    (h : marker body.text ++ rest = marker other.text ++ others) :
    body = other ∧ rest = others := by
  have read := marker?_marker_append body.ne_nil body.no_close rest
  rw [h, marker?_marker_append other.ne_nil other.no_close others] at read
  obtain ⟨sameBody, sameRest⟩ := Prod.mk.inj (Option.some.inj read)
  exact ⟨Body.ext sameBody.symm, sameRest.symm⟩

/-- Literals with markers between them. -/
inductive Split where
  | literal (t : Text)
  | marker (before : Text) (body : Body) (rest : Split)

namespace Split

def fill (f : Text → Text) : Split → Text
  | literal t => t
  | marker before body rest => before ++ (f body.text ++ rest.fill f)

def text (s : Split) : Text := s.fill Template.marker

def bodies : Split → List Text
  | literal _ => []
  | marker _ body rest => body.text :: rest.bodies

def Leftmost : Split → Prop
  | literal t => NoneIn Begins t []
  | marker before body rest =>
    NoneIn Begins before (Template.marker body.text ++ rest.text) ∧ rest.Leftmost

instance decidableLeftmost : (s : Split) → Decidable s.Leftmost
  | literal t => inferInstanceAs (Decidable (NoneIn Begins t []))
  | marker before body rest =>
    have := decidableLeftmost rest
    inferInstanceAs (Decidable (NoneIn Begins before (Template.marker body.text ++ rest.text) ∧ _))

/-- That a text is split so that no marker begins inside of a literal. -/
structure Of (source : Text) (s : Split) : Prop where
  text : s.text = source
  leftmost : s.Leftmost

@[simp] theorem text_literal (t : Text) : (literal t).text = t := rfl

@[simp] theorem text_marker (before : Text) (body : Body) (rest : Split) :
    (marker before body rest).text = before ++ (Template.marker body.text ++ rest.text) := rfl

theorem fill_congr {f g : Text → Text} {s : Split} (h : ∀ body ∈ s.bodies, f body = g body) :
    s.fill f = s.fill g := by
  induction s with
  | literal t => rfl
  | marker before body rest ih =>
    have here : f body.text = g body.text := h body.text List.mem_cons_self
    have there : rest.fill f = rest.fill g := ih fun b mem => h b (List.mem_cons_of_mem _ mem)
    rw [fill, fill, here, there]

theorem exists_of (source : Text) : ∃ s, Of source s := by
  -- on the length, for a marker takes more than one character away
  induction len : source.length using Nat.strongRecOn generalizing source with
  | _ n ih =>
    subst len
    rcases noneIn_or_exists_first Begins source with nowhere | first
    · exact ⟨literal source, rfl, nowhere⟩
    · obtain ⟨before, v, rfl, ⟨body, rest, rfl⟩, none⟩ := first
      have shorter : rest.length < (before ++ (Template.marker body.text ++ rest)).length := by
        simp only [marker_eq, List.length_append, List.length_cons]
        omega
      obtain ⟨s, rfl, further⟩ := ih rest.length shorter rest rfl
      exact ⟨marker before body s, rfl, none, further⟩

theorem not_text_eq_literal {before t : Text} {body : Body} {rest : Split}
    (nowhere : NoneIn Begins t []) (h : (marker before body rest).text = t) : False := by
  rw [text_marker] at h
  subst h
  have nil : Template.marker body.text ++ rest.text = [] := by
    apply nowhere.eq_nil
    rw [List.append_nil]
    exact begins_marker body rest.text
  rw [marker_eq] at nil
  cases nil

theorem Leftmost.eq_of_text_eq {s other : Split} (leftmost : s.Leftmost)
    (leftmost' : other.Leftmost) (h : s.text = other.text) : s = other := by
  induction s generalizing other with
  | literal t =>
    cases other with
    | literal t' =>
      rw [text_literal, text_literal] at h
      rw [h]
    | marker before body rest => exact (not_text_eq_literal leftmost h.symm).elim
  | marker before body rest ih =>
    cases other with
    | literal t' => exact (not_text_eq_literal leftmost' h).elim
    | marker before' body' rest' =>
      rw [text_marker, text_marker] at h
      have same : before = before' := leftmost.1.eq_of_append_eq leftmost'.1
        (begins_marker body _) (begins_marker body' _) h
      rw [same, List.append_cancel_left_eq] at h
      obtain ⟨sameBody, sameRest⟩ := marker_append_inj h
      rw [same, sameBody, ih leftmost.2 leftmost'.2 sameRest]

end Split

/-! Interpolation goes by the split -/

theorem replaceMarker_marker (scope : Node) (index : Option Nat) (body : Body) (rest : Text) :
    replaceMarker scope index (marker body.text ++ rest) =
      some (markerText scope index body.text, rest) := by
  rw [replaceMarker, marker?_marker_append body.ne_nil body.no_close]
  simp [body.not_tag]

theorem replaceMarker_of_not_begins (scope : Node) (index : Option Nat) {t : Text}
    (h : ¬Begins t) : replaceMarker scope index t = none := by
  rw [begins_iff] at h
  rw [replaceMarker]
  cases read : marker? t with
  | none => rfl
  | some parts =>
    rw [read] at h
    have tag : isTag parts.1 := by simpa using h
    exact if_pos tag

theorem interpolate_noneIn_append (scope : Node) (index : Option Nat) {u t : Text}
    (none : NoneIn Begins u t) :
    interpolate scope index (u ++ t) = u ++ interpolate scope index t :=
  scan_append_of_forall fun s ne suffix =>
    replaceMarker_of_not_begins scope index (none s ne suffix)

theorem interpolate_marker_append (scope : Node) (index : Option Nat) (body : Body) (t : Text) :
    interpolate scope index (marker body.text ++ t) =
      markerText scope index body.text ++ interpolate scope index t :=
  scan_append_of_eq_some (by simp [marker_eq]) (replaceMarker_marker scope index body t)

theorem Split.Leftmost.interpolate (scope : Node) (index : Option Nat) {s : Split}
    (leftmost : s.Leftmost) :
    Template.interpolate scope index s.text = s.fill (markerText scope index) := by
  induction s with
  | literal t =>
    have copied := interpolate_noneIn_append scope index leftmost
    rw [List.append_nil] at copied
    rw [text_literal, copied, fill]
    exact List.append_nil t
  | marker before body rest ih =>
    rw [text_marker, interpolate_noneIn_append scope index leftmost.1,
      interpolate_marker_append, ih leftmost.2, fill]

/-- A text is split in exactly one way, and interpolation replaces the markers of this split: by
the position or the text that answers to the body, else by themselves. -/
theorem interpolate_eq_fill (source : Text) (scope : Node) (index : Option Nat) :
    (∃! s, Split.Of source s) ∧ ∀ s, Split.Of source s →
      interpolate scope index source =
        s.fill (fun body => (answer? scope index body).getD (marker body)) ∧
      ((∀ body ∈ s.bodies, answer? scope index body = none) →
        interpolate scope index source = source) := by
  constructor
  · obtain ⟨s, split⟩ := Split.exists_of source
    refine ⟨s, split, fun other split' => ?_⟩
    exact split'.leftmost.eq_of_text_eq split.leftmost (split'.text.trans split.text.symm)
  · rintro s ⟨rfl, leftmost⟩
    have filled := leftmost.interpolate scope index
    rw [funext (markerText_eq scope index)] at filled
    refine ⟨filled, fun unanswered => ?_⟩
    rw [filled]
    exact Split.fill_congr fun body mem => by rw [unanswered body mem, Option.getD_none]

theorem not_mem_of_elem {c : Char} {t : Text} (h : t.elem c = false) : c ∉ t := by
  intro mem
  rw [List.elem_eq_true_of_mem mem] at h
  cases h

/-- Markers in a row of braces, behind an open tag that is none, and for a position:
`{{{a}}} {{#a{{b}} {{@index}}`. -/
def braces : Text :=
  '{' :: marker ['a'] ++ '}' :: ' ' :: '{' :: '{' :: '#' :: 'a' :: marker ['b'] ++
    ' ' :: marker indexMarker

def bracesSplit : Split :=
  .marker [] ⟨['{', 'a'], List.cons_ne_nil _ _, not_mem_of_elem rfl, rfl⟩
    (.marker ['}', ' ', '{', '{', '#', 'a'] ⟨['b'], List.cons_ne_nil _ _, not_mem_of_elem rfl, rfl⟩
      (.marker [' '] ⟨indexMarker, List.cons_ne_nil _ _, not_mem_of_elem rfl, rfl⟩ (.literal [])))

theorem interpolate_braces : Split.Of braces bracesSplit ∧
    interpolate (.group [(['b'], .text ['x'])]) (some 3) braces =
      '{' :: marker ['a'] ++ '}' :: ' ' :: '{' :: '{' :: "#ax 3".toList ∧
    (∀ body ∈ bracesSplit.bodies, answer? Node.empty none body = none) ∧
    interpolate Node.empty none braces = braces := by
  have split : Split.Of braces bracesSplit := ⟨by decide, by decide +kernel⟩
  have unanswered : ∀ body ∈ bracesSplit.bodies, answer? Node.empty none body = none := by decide
  refine ⟨split, ?_, unanswered, ?_⟩
  · exact ((interpolate_eq_fill braces _ (some 3)).2 bracesSplit split).1.trans (by decide)
  · exact ((interpolate_eq_fill braces Node.empty none).2 bracesSplit split).2 unanswered

end Pagecraft.Template
