import Mathlib.Data.List.TakeWhile
import Pagecraft.Template.Render

/-! How a scan runs. It copies a text up to the first place where something is replaced and goes
on behind what was replaced. Nothing is replaced but where a text begins with `{{`, and what is
replaced ends with `}}`; so text without braces is copied, before and after anything else. -/
namespace Pagecraft

namespace Text

def IsPlain (t : Text) : Prop := ∀ c ∈ t, c ≠ '{' ∧ c ≠ '}'

instance (t : Text) : Decidable t.IsPlain := List.decidableBAll _ t

theorem IsPlain.append {s t : Text} (hs : s.IsPlain) (ht : t.IsPlain) : (s ++ t).IsPlain := by
  intro c hc
  rcases List.mem_append.mp hc with hc | hc
  · exact hs c hc
  · exact ht c hc

theorem IsPlain.not_mem_close {t : Text} (h : t.IsPlain) : '}' ∉ t := fun hc => (h _ hc).2 rfl

@[simp] theorem dropMark?_append (mark t : Text) : dropMark? mark (mark ++ t) = some t :=
  dropMark?_eq_some_iff.mpr rfl

theorem dropMark?_eq_none_iff {mark t : Text} :
    dropMark? mark t = none ↔ ∀ rest, t ≠ mark ++ rest := by
  rw [Option.eq_none_iff_forall_ne_some]
  simp only [ne_eq, dropMark?_eq_some_iff]

theorem cut?_mark_append {mark : Text} (ne : mark ≠ []) (t : Text) :
    cut? mark (mark ++ t) = some ([], t) := by
  cases mark with
  | nil => exact absurd rfl ne
  | cons c mark =>
    rw [List.cons_append, cut?, ← List.cons_append, dropMark?_append]

theorem cut?_append_of_forall {mark u t : Text}
    (h : ∀ s, s ≠ [] → s <:+ u → dropMark? mark (s ++ t) = none) :
    cut? mark (u ++ t) = (cut? mark t).map fun (before, after) => (u ++ before, after) := by
  induction u with
  | nil => simp
  | cons c u ih =>
    have here := h (c :: u) (by simp) List.suffix_rfl
    have there := ih fun s ne suffix => h s ne (suffix.trans (List.suffix_cons c u))
    rw [List.cons_append] at here ⊢
    rw [cut?, here, there]
    cases cut? mark t <;> rfl

theorem dropMark?_append_right {mark front b : Text} {last : Char} (hm : mark = front ++ [last])
    (hb : last ∉ b) (t : Text) : dropMark? mark (t ++ b) = (dropMark? mark t).map (· ++ b) := by
  ext rest
  rw [dropMark?_eq_some_iff, Option.map_eq_some_iff]
  simp only [dropMark?_eq_some_iff]
  constructor
  · intro eq
    rcases List.append_eq_append_iff.mp eq with ⟨more, rfl, rfl⟩ | ⟨left, rfl, rfl⟩
    · rcases List.eq_nil_or_concat more with rfl | ⟨more', c, rfl⟩
      · exact ⟨[], by simp⟩
      · have : c = last := by
          rw [List.concat_eq_append, ← List.append_assoc] at hm
          exact List.singleton_inj.mp (List.append_inj' hm rfl).2
        simp [this] at hb
    · exact ⟨left, rfl, rfl⟩
  · rintro ⟨rest, rfl, rfl⟩
    rw [List.append_assoc]

theorem cut?_append_right {mark front b : Text} {last : Char} (hm : mark = front ++ [last])
    (hb : last ∉ b) (t : Text) :
    cut? mark (t ++ b) = (cut? mark t).map fun (before, after) => (before, after ++ b) := by
  induction t with
  | nil =>
    have missing : cut? mark b = none := by
      cases found : cut? mark b with
      | none => rfl
      | some parts =>
        rw [eq_append_of_cut? found, hm] at hb
        simp at hb
    have : mark.isEmpty = false := by simp [hm]
    simp [missing, cut?, this]
  | cons c t ih =>
    have here := dropMark?_append_right hm hb (c :: t)
    rw [List.cons_append] at here ⊢
    rw [cut?, here, ih, cut?]
    cases dropMark? mark (c :: t) with
    | some rest => rfl
    | none => cases cut? mark t <;> rfl

end Text

namespace Template
open Text

def opens : Text → Bool
  | '{' :: '{' :: _ => true
  | _ => false

theorem marker_eq (body : Text) : marker body = '{' :: '{' :: (body ++ ['}', '}']) := rfl

theorem marker_eq_append (body : Text) :
    marker body = ('{' :: '{' :: body ++ ['}']) ++ ['}'] := by
  simp [marker_eq]

theorem closeTag_eq (name : Text) : closeTag name = marker ('/' :: name) := rfl

theorem opens_marker_append (body t : Text) : opens (marker body ++ t) := rfl

theorem opens_iff {t : Text} : opens t ↔ ['{', '{'] <+: t := by
  constructor
  · intro h
    rw [opens.eq_def] at h
    split at h
    case h_1 rest => exact List.prefix_append ['{', '{'] rest
    case h_2 => cases h
  · rintro ⟨rest, rfl⟩
    rfl

theorem marker?_of_not_opens {t : Text} (h : ¬opens t) : marker? t = none := by
  rw [marker?.eq_def]
  split
  · simp [opens] at h
  · rfl

theorem dropMark?_marker_of_not_opens {t : Text} (h : ¬opens t) (body : Text) :
    dropMark? (marker body) t = none := by
  rw [dropMark?_eq_none_iff]
  rintro rest rfl
  exact h (opens_marker_append body rest)

theorem block?_of_marker?_eq_none {accept : Text → Bool} {t : Text} (h : marker? t = none) :
    block? accept t = none := by
  simp [block?, h]

theorem not_opens_of_isPlain {s : Text} (plain : s.IsPlain) (ne : s ≠ []) (t : Text) :
    ¬opens (s ++ t) := by
  cases s with
  | nil => exact absurd rfl ne
  | cons c s =>
    have := (plain c (by simp)).1
    rw [List.cons_append, opens.eq_def]
    split <;> simp_all

theorem not_opens_of_suffix_marker {body s : Text} (plain : body.IsPlain) (ne : s ≠ [])
    (suffix : s <:+ marker body) (proper : s ≠ marker body) (t : Text) : ¬opens (s ++ t) := by
  have closing : ∀ s : Text, s ≠ [] → s <:+ body ++ ['}', '}'] → ∃ c s', s = c :: s' ∧ c ≠ '{' := by
    intro s ne suffix
    cases s with
    | nil => exact absurd rfl ne
    | cons c s' =>
      refine ⟨c, s', rfl, ?_⟩
      have : c ∈ body ++ ['}', '}'] := suffix.subset (by simp)
      rcases List.mem_append.mp this with mem | mem
      · exact (plain c mem).1
      · rintro rfl
        simp at mem
  rw [marker_eq] at suffix proper
  rcases List.suffix_cons_iff.mp suffix with rfl | suffix
  · exact absurd rfl proper
  rcases List.suffix_cons_iff.mp suffix with rfl | suffix
  · obtain ⟨c, s', eq, noBrace⟩ := closing (body ++ ['}', '}']) (by simp) List.suffix_rfl
    rw [eq, List.cons_append, List.cons_append, opens.eq_def]
    split <;> simp_all
  · obtain ⟨c, s', rfl, noBrace⟩ := closing s ne suffix
    rw [List.cons_append, opens.eq_def]
    split <;> simp_all

theorem marker?_marker_append {body : Text} (ne : body ≠ []) (h : '}' ∉ body) (t : Text) :
    marker? (marker body ++ t) = some (body, t) := by
  have all : ∀ c ∈ body, (c != '}') = true := by
    intro c hc
    simpa using fun eq : c = '}' => h (eq ▸ hc)
  have takes : (body ++ ['}', '}'] ++ t).takeWhile (· != '}') = body := by
    rw [List.append_assoc, List.takeWhile_append_of_pos all]
    simp
  have drops : (body ++ ['}', '}'] ++ t).dropWhile (· != '}') = '}' :: '}' :: t := by
    rw [List.append_assoc, List.dropWhile_append_of_pos all]
    simp
  cases body with
  | nil => exact absurd rfl ne
  | cons c body =>
    rw [marker_eq, List.cons_append, List.cons_append, marker?, takes, drops]
    rfl

theorem marker?_eq_some_iff {t body rest : Text} :
    marker? t = some (body, rest) ↔ body ≠ [] ∧ '}' ∉ body ∧ t = marker body ++ rest := by
  constructor
  · intro h
    rw [marker?.eq_def] at h
    split at h
    case h_2 => simp at h
    case h_1 inner =>
      split at h
      case h_2 => simp at h
      case h_1 c body' rest' taken dropped =>
        cases h
        refine ⟨by simp, ?_, ?_⟩
        · intro mem
          rw [← taken] at mem
          simpa using List.mem_takeWhile_imp mem
        · have := List.takeWhile_append_dropWhile (p := (· != '}')) (l := inner)
          rw [taken, dropped] at this
          simp [marker, ← this]
  · rintro ⟨ne, h, rfl⟩
    exact marker?_marker_append ne h rest

theorem marker?_append_right {b : Text} (hb : '}' ∉ b) (t : Text) :
    marker? (t ++ b) = (marker? t).map fun (body, rest) => (body, rest ++ b) := by
  ext parts
  obtain ⟨body, rest⟩ := parts
  have whole := dropMark?_append_right (marker_eq_append body) hb t
  rw [marker?_eq_some_iff, Option.map_eq_some_iff, ← dropMark?_eq_some_iff, whole,
    Option.map_eq_some_iff]
  constructor
  · rintro ⟨ne, noClose, rest, read, rfl⟩
    exact ⟨(body, rest), marker?_eq_some_iff.mpr ⟨ne, noClose, dropMark?_eq_some_iff.mp read⟩, rfl⟩
  · rintro ⟨⟨body, rest⟩, read, eq⟩
    cases eq
    obtain ⟨ne, noClose, eq⟩ := marker?_eq_some_iff.mp read
    exact ⟨ne, noClose, rest, dropMark?_eq_some_iff.mpr eq, rfl⟩

theorem cut?_marker_plain_append {u : Text} (plain : u.IsPlain) (body t : Text) :
    cut? (marker body) (u ++ t) =
      (cut? (marker body) t).map fun (before, after) => (u ++ before, after) :=
  cut?_append_of_forall fun _ ne suffix => dropMark?_marker_of_not_opens
    (not_opens_of_isPlain (fun c hc => plain c (suffix.subset hc)) ne t) body

theorem cut?_marker_marker_append {body other : Text} (plain : other.IsPlain) (ne : body ≠ [])
    (h : '}' ∉ body) (ne_other : other ≠ []) (differ : other ≠ body) (t : Text) :
    cut? (marker body) (marker other ++ t) =
      (cut? (marker body) t).map fun (before, after) => (marker other ++ before, after) := by
  refine cut?_append_of_forall fun s neNil suffix => ?_
  by_cases proper : s = marker other
  · rw [proper, dropMark?_eq_none_iff]
    intro rest eq
    have read := marker?_marker_append ne_other plain.not_mem_close t
    rw [eq, marker?_marker_append ne h] at read
    cases read
    exact differ rfl
  · exact dropMark?_marker_of_not_opens
      (not_opens_of_suffix_marker plain neNil suffix proper t) body

theorem block?_openTag_append {accept : Text → Bool} {name : Text} (accepted : accept name)
    (h : '}' ∉ name) (t : Text) :
    block? accept (openTag name ++ t) =
      (cut? (closeTag name) t).map fun (body, rest) => ⟨name, body, rest⟩ := by
  have read : marker? (openTag name ++ t) = some ('#' :: name, t) :=
    marker?_marker_append (by simp) (by simpa using h) t
  simp only [block?, read, Option.bind_eq_bind, Option.bind_some]
  rw [show '#' :: name = ['#'] ++ name from rfl, dropMark?_append]
  simp only [Option.bind_some, accepted, if_true]
  cases cut? (closeTag name) t <;> rfl

theorem block?_marker_append_eq_none {accept : Text → Bool} {body : Text} (ne : body ≠ [])
    (h : '}' ∉ body) (refused : ∀ name, body = '#' :: name → ¬accept name) (t : Text) :
    block? accept (marker body ++ t) = none := by
  simp only [block?, marker?_marker_append ne h, Option.bind_eq_bind, Option.bind_some]
  cases read : dropMark? ['#'] body with
  | none => rfl
  | some name =>
    have := refused name (dropMark?_eq_some_iff.mp read)
    simp [this]

theorem eq_append_of_block? {accept : Text → Bool} {t : Text} {b : Block}
    (h : block? accept t = some b) :
    accept b.name ∧ t = openTag b.name ++ (b.body ++ (closeTag b.name ++ b.rest)) := by
  simp only [block?, Option.bind_eq_bind, Option.bind_eq_some_iff] at h
  obtain ⟨⟨tag, after⟩, opened, name, named, h⟩ := h
  split at h
  case isFalse => simp at h
  case isTrue accepted =>
    obtain ⟨⟨body, rest⟩, closed, h⟩ := Option.bind_eq_some_iff.mp h
    cases h
    obtain ⟨_, _, rfl⟩ := marker?_eq_some_iff.mp opened
    have tagged : tag = ['#'] ++ name := dropMark?_eq_some_iff.mp named
    have cut : after = body ++ closeTag name ++ rest := eq_append_of_cut? closed
    refine ⟨accepted, ?_⟩
    rw [tagged, cut, List.append_assoc]
    rfl

theorem block?_append_right {accept : Text → Bool} {b : Text} (hb : '}' ∉ b) (t : Text) :
    block? accept (t ++ b) =
      (block? accept t).map fun block => { block with rest := block.rest ++ b } := by
  simp only [block?, Option.bind_eq_bind]
  rw [marker?_append_right hb t]
  cases marker? t with
  | none => rfl
  | some parts =>
    obtain ⟨tag, after⟩ := parts
    simp only [Option.map_some, Option.bind_some]
    cases dropMark? ['#'] tag with
    | none => rfl
    | some name =>
      simp only [Option.bind_some]
      rw [cut?_append_right ((closeTag_eq name).trans (marker_eq_append _)) hb after]
      cases accept name <;> cases cut? (closeTag name) after <;> rfl

/-! Scans -/

/-- A replacement of something that begins with `{{` and ends with `}}`. -/
structure Delimited (replace : Text → Option (Text × Text)) : Prop where
  eq_none : ∀ t, ¬opens t → replace t = none
  append_right : ∀ b, '}' ∉ b → ∀ t,
    replace (t ++ b) = (replace t).map fun (replacement, rest) => (replacement, rest ++ b)

theorem delimited_replaceMarker (scope : Node) (index : Option Nat) :
    Delimited (replaceMarker scope index) where
  eq_none t h := by rw [replaceMarker, marker?_of_not_opens h]
  append_right b hb t := by
    rw [replaceMarker, replaceMarker, marker?_append_right hb]
    cases marker? t with
    | none => rfl
    | some parts =>
      simp only [Option.map_some]
      split <;> rfl

theorem delimited_block (accept : Text → Bool) (text : Text → Text → Text) :
    Delimited fun t => (block? accept t).map fun b => (text b.name b.body, b.rest) where
  eq_none t h := by rw [block?_of_marker?_eq_none (marker?_of_not_opens h)]; rfl
  append_right b hb t := by
    rw [block?_append_right hb]
    cases block? accept t <;> rfl

section
variable {replace : Text → Option (Text × Text)}

theorem scan_length_append (u t : Text) : scan replace u.length (u ++ t) = scan replace 0 t := by
  induction u with
  | nil => rfl
  | cons c u ih => rw [List.length_cons, List.cons_append, scan, ih]

/-- What was put in is not scanned again. -/
theorem scan_append_of_eq_some {u t replacement : Text} (ne : u ≠ [])
    (h : replace (u ++ t) = some (replacement, t)) :
    scan replace 0 (u ++ t) = replacement ++ scan replace 0 t := by
  cases u with
  | nil => exact absurd rfl ne
  | cons c u =>
    rw [List.cons_append] at h ⊢
    have covered : (u ++ t).length - t.length = u.length := by simp
    rw [scan, h]
    simp only [covered, scan_length_append]

theorem scan_append_of_forall {u t : Text}
    (h : ∀ s, s ≠ [] → s <:+ u → replace (s ++ t) = none) :
    scan replace 0 (u ++ t) = u ++ scan replace 0 t := by
  induction u with
  | nil => rfl
  | cons c u ih =>
    have here := h (c :: u) (by simp) List.suffix_rfl
    have there := ih fun s ne suffix => h s ne (suffix.trans (List.suffix_cons c u))
    rw [List.cons_append] at here ⊢
    rw [scan, here]
    simp only [there, List.cons_append]

theorem scan_plain_append (delimited : Delimited replace) {u : Text} (plain : u.IsPlain)
    (t : Text) : scan replace 0 (u ++ t) = u ++ scan replace 0 t := by
  refine scan_append_of_forall fun s ne suffix => delimited.eq_none _ ?_
  exact not_opens_of_isPlain (fun c hc => plain c (suffix.subset hc)) ne t

theorem scan_marker_append (delimited : Delimited replace) {body t : Text} (plain : body.IsPlain)
    (h : replace (marker body ++ t) = none) :
    scan replace 0 (marker body ++ t) = marker body ++ scan replace 0 t := by
  refine scan_append_of_forall fun s ne suffix => ?_
  by_cases proper : s = marker body
  · rw [proper, h]
  · exact delimited.eq_none _ (not_opens_of_suffix_marker plain ne suffix proper t)

/-- What lacks the sign that ends all markers has no part in any replacement before it. -/
theorem scan_append_right (delimited : Delimited replace) {b : Text} (hb : '}' ∉ b) (t : Text)
    (covered : Nat) (within : covered ≤ t.length) :
    scan replace covered (t ++ b) = scan replace covered t ++ b := by
  induction t generalizing covered with
  | nil =>
    obtain rfl : covered = 0 := by simpa using within
    have copied : scan replace 0 (b ++ []) = b ++ scan replace 0 [] := by
      refine scan_append_of_forall fun s ne suffix => ?_
      have := delimited.append_right s (fun hc => hb (suffix.subset hc)) []
      rw [delimited.eq_none [] (by simp [opens])] at this
      simpa using this
    simpa [scan] using copied
  | cons c t ih =>
    cases covered with
    | succ covered =>
      rw [List.cons_append, scan, scan]
      exact ih covered (by simpa using within)
    | zero =>
      -- What is replaced is the same with `b` behind it, and so is the number of characters covered.
      have frame := delimited.append_right b hb (c :: t)
      rw [List.cons_append] at frame ⊢
      rw [scan, scan, frame]
      cases replace (c :: t) with
      | none => simp only [Option.map_none, ih 0 (Nat.zero_le _), List.cons_append]
      | some parts =>
        obtain ⟨replacement, rest⟩ := parts
        have same : (t ++ b).length - (rest ++ b).length = t.length - rest.length := by
          simp only [List.length_append]
          omega
        simp only [Option.map_some, same, ih _ (Nat.sub_le _ _), List.append_assoc]

theorem scan_block {accept : Text → Bool} {text : Text → Text → Text} {name body t : Text}
    (accepted : accept name) (h : '}' ∉ name)
    (nearest : cut? (closeTag name) (body ++ (closeTag name ++ t)) = some (body, t)) :
    scan (fun t => (block? accept t).map fun b => (text b.name b.body, b.rest)) 0
        (openTag name ++ (body ++ (closeTag name ++ t))) =
      text name body ++
        scan (fun t => (block? accept t).map fun b => (text b.name b.body, b.rest)) 0 t := by
  have whole : openTag name ++ (body ++ (closeTag name ++ t)) =
      (openTag name ++ (body ++ closeTag name)) ++ t := by simp
  rw [whole]
  refine scan_append_of_eq_some (by simp [openTag, marker_eq]) ?_
  rw [← whole, block?_openTag_append accepted h, nearest]
  rfl

end

end Template
end Pagecraft
