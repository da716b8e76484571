import Pagecraft.Proofs.Template.Language
import Pagecraft.Proofs.Text.First

/-! How a text falls into blocks and what is outside of them, however badly its tags are nested. A
block begins at the first open tag that is closed anywhere behind it, and it ends at the first close
tag of its name. There is exactly one such split, and the passes over loops and conditions go by it:
they copy what is outside and replace the blocks one by one. -/
namespace Pagecraft.Template
open Text

/-- Whether a text begins with an open tag of an accepted name, and the close tag of this name comes
somewhere behind it. -/
def Closes (accept : Text → Bool) (t : Text) : Prop :=
  ∃ name body rest, accept name ∧ t = openTag name ++ (body ++ (closeTag name ++ rest))

inductive Regions where
  | outside (t : Text)
  | block (before name body : Text) (rest : Regions)

namespace Regions

def fill (f : Text → Text → Text) : Regions → Text
  | outside t => t
  | block before name body rest => before ++ (f name body ++ rest.fill f)

def text : Regions → Text
  | outside t => t
  | block before name body rest =>
    before ++ (openTag name ++ (body ++ (closeTag name ++ rest.text)))

/-- That every block has an accepted name, begins as early as possible and ends as early as
possible. -/
def Nearest (accept : Text → Bool) : Regions → Prop
  | outside t => NoneIn (Closes accept) t []
  | block before name body rest =>
    accept name ∧
      NoneIn (Closes accept) before (openTag name ++ (body ++ (closeTag name ++ rest.text))) ∧
      NoneIn (closeTag name <+: ·) body (closeTag name ++ rest.text) ∧ rest.Nearest accept

instance decidableNearest {accept : Text → Bool} [DecidablePred (Closes accept)] :
    (regions : Regions) → Decidable (regions.Nearest accept)
  | outside t => inferInstanceAs (Decidable (NoneIn (Closes accept) t []))
  | block before name body rest =>
    have : Decidable (rest.Nearest accept) := decidableNearest rest
    inferInstanceAs (Decidable (accept name ∧
      NoneIn (Closes accept) before (openTag name ++ (body ++ (closeTag name ++ rest.text))) ∧
      NoneIn (closeTag name <+: ·) body (closeTag name ++ rest.text) ∧ _))

structure Of (accept : Text → Bool) (source : Text) (regions : Regions) : Prop where
  text : regions.text = source
  nearest : regions.Nearest accept

end Regions

section
variable {accept : Text → Bool}

theorem closeTag_ne_nil (name : Text) : closeTag name ≠ [] := List.cons_ne_nil _ _

theorem cut?_of_noneIn {mark before after : Text} (ne : mark ≠ [])
    (none : NoneIn (mark <+: ·) before (mark ++ after)) :
    cut? mark (before ++ (mark ++ after)) = some (before, after) := by
  rw [cut?_append_of_forall, cut?_mark_append ne]
  · simp
  · intro s ne suffix
    rw [dropMark?_eq_none_iff]
    intro rest eq
    exact none s ne suffix ⟨rest, eq.symm⟩

theorem exists_nearest {mark : Text} (ne : mark ≠ []) (body rest : Text) : ∃ body' rest',
    body ++ (mark ++ rest) = body' ++ (mark ++ rest') ∧
      NoneIn (mark <+: ·) body' (mark ++ rest') := by
  rcases noneIn_or_exists_first (mark <+: ·) (body ++ (mark ++ rest)) with nowhere | first
  · have marked : mark ++ rest ≠ [] := List.append_ne_nil_of_left_ne_nil ne rest
    refine absurd ?_ (nowhere (mark ++ rest) marked (List.suffix_append body _))
    rw [List.append_nil]
    exact List.prefix_append mark rest
  · obtain ⟨body', v, eq, ⟨rest', rfl⟩, none⟩ := first
    exact ⟨body', rest', eq, none⟩

theorem openTag_append_inj {name other t t' : Text} (h : '}' ∉ name) (h' : '}' ∉ other)
    (eq : openTag name ++ t = openTag other ++ t') : name = other ∧ t = t' := by
  have read : marker? (openTag name ++ t) = some ('#' :: name, t) :=
    marker?_marker_append (by simp) (by simpa using h) t
  rw [eq, openTag, marker?_marker_append (by simp) (by simpa using h')] at read
  obtain ⟨sameTag, sameText⟩ := Prod.mk.inj (Option.some.inj read)
  exact ⟨(List.cons.inj sameTag).2.symm, sameText.symm⟩

theorem closes_iff (noClose : ∀ name, accept name → '}' ∉ name) {t : Text} :
    Closes accept t ↔ (block? accept t).isSome := by
  constructor
  · rintro ⟨name, body, rest, accepted, rfl⟩
    obtain ⟨body', rest', eq, none⟩ := exists_nearest (closeTag_ne_nil name) body rest
    rw [eq, block?_openTag_append accepted (noClose name accepted),
      cut?_of_noneIn (closeTag_ne_nil name) none]
    rfl
  · intro found
    obtain ⟨b, found⟩ := Option.isSome_iff_exists.mp found
    obtain ⟨accepted, eq⟩ := eq_append_of_block? found
    exact ⟨b.name, b.body, b.rest, accepted, eq⟩

theorem scan_noneIn_append (noClose : ∀ name, accept name → '}' ∉ name) (f : Text → Text → Text)
    {u t : Text} (none : NoneIn (Closes accept) u t) :
    scan (fun t => (block? accept t).map fun b => (f b.name b.body, b.rest)) 0 (u ++ t) =
      u ++ scan (fun t => (block? accept t).map fun b => (f b.name b.body, b.rest)) 0 t := by
  refine scan_append_of_forall fun s ne suffix => ?_
  have nothing := none s ne suffix
  rw [closes_iff noClose, Option.not_isSome_iff_eq_none] at nothing
  rw [nothing, Option.map_none]

namespace Regions

theorem exists_of (accept : Text → Bool) (source : Text) : ∃ regions, Of accept source regions := by
  -- on the length, for a block takes at least its tags away
  induction len : source.length using Nat.strongRecOn generalizing source with
  | _ n ih =>
    subst len
    rcases noneIn_or_exists_first (Closes accept) source with nowhere | first
    · exact ⟨outside source, rfl, nowhere⟩
    · obtain ⟨before, v, rfl, ⟨name, body, rest, accepted, rfl⟩, none⟩ := first
      obtain ⟨body', rest', eq, nearest⟩ := exists_nearest (closeTag_ne_nil name) body rest
      rw [eq] at ih none ⊢
      have shorter : rest'.length <
          (before ++ (openTag name ++ (body' ++ (closeTag name ++ rest')))).length := by
        simp only [openTag, marker_eq, List.length_append, List.length_cons]
        omega
      obtain ⟨regions, rfl, further⟩ := ih rest'.length shorter rest' rfl
      exact ⟨block before name body' regions, rfl, accepted, none, nearest, further⟩

theorem not_text_eq_outside {before name body t : Text} {rest : Regions}
    (nowhere : NoneIn (Closes accept) t []) (accepted : accept name)
    (h : (block before name body rest).text = t) : False := by
  rw [text] at h
  subst h
  have nil : openTag name ++ (body ++ (closeTag name ++ rest.text)) = [] := by
    apply nowhere.eq_nil
    rw [List.append_nil]
    exact ⟨name, body, rest.text, accepted, rfl⟩
  rw [openTag, marker_eq] at nil
  cases nil

theorem Nearest.eq_of_text_eq (noClose : ∀ name, accept name → '}' ∉ name)
    {regions other : Regions} (nearest : regions.Nearest accept)
    (nearest' : other.Nearest accept) (h : regions.text = other.text) : regions = other := by
  induction regions generalizing other with
  | outside t =>
    cases other with
    | outside t' => exact congrArg outside h
    | block before name body rest => exact (not_text_eq_outside nearest nearest'.1 h.symm).elim
  | block before name body rest ih =>
    cases other with
    | outside t' => exact (not_text_eq_outside nearest' nearest.1 h).elim
    | block before' name' body' rest' =>
      obtain ⟨accepted, begins, ends, further⟩ := nearest
      obtain ⟨accepted', begins', ends', further'⟩ := nearest'
      rw [text, text] at h
      have sameBefore : before = before' := begins.eq_of_append_eq begins'
        ⟨_, _, _, accepted, rfl⟩ ⟨_, _, _, accepted', rfl⟩ h
      rw [sameBefore, List.append_cancel_left_eq] at h
      obtain ⟨rfl, h⟩ := openTag_append_inj (noClose name accepted) (noClose name' accepted') h
      have sameBody : body = body' := ends.eq_of_append_eq ends'
        (List.prefix_append _ _) (List.prefix_append _ _) h
      rw [sameBody, List.append_cancel_left_eq, List.append_cancel_left_eq] at h
      rw [sameBefore, sameBody, ih further further' h]

theorem existsUnique_of (noClose : ∀ name, accept name → '}' ∉ name) (source : Text) :
    ∃! regions, Of accept source regions := by
  obtain ⟨regions, split⟩ := exists_of accept source
  refine ⟨regions, split, fun other split' => ?_⟩
  exact split'.nearest.eq_of_text_eq noClose split.nearest (split'.text.trans split.text.symm)

theorem Nearest.scan (noClose : ∀ name, accept name → '}' ∉ name) (f : Text → Text → Text)
    {regions : Regions} (nearest : regions.Nearest accept) :
    Template.scan (fun t => (block? accept t).map fun b => (f b.name b.body, b.rest)) 0
      regions.text = regions.fill f := by
  induction regions with
  | outside t =>
    have copied := scan_noneIn_append noClose f nearest
    rw [List.append_nil] at copied
    rw [text, copied, fill]
    exact List.append_nil t
  | block before name body rest ih =>
    obtain ⟨accepted, begins, ends, further⟩ := nearest
    have closed := cut?_of_noneIn (closeTag_ne_nil name) ends
    rw [text, scan_noneIn_append noClose f begins, scan_block accepted (noClose name accepted) closed,
      ih further, fill]

end Regions
end

/-! The names of blocks -/

theorem no_close_of_isWord {name : Text} (h : isWord name) : '}' ∉ name :=
  (isPlain_of_isWord h).not_mem_close

theorem isCondition_iff {name : Text} :
    isCondition name ↔ ∃ field, isWord field ∧ name = conditionName field := by
  constructor
  · intro h
    unfold isCondition at h
    split at h
    case h_1 field named =>
      refine ⟨field, h, ?_⟩
      rw [dropMark?_eq_some_iff.mp named, conditionName, List.append_assoc]
      rfl
    case h_2 => cases h
  · rintro ⟨field, word, rfl⟩
    exact isCondition_conditionName word

theorem no_close_of_isCondition {name : Text} (h : isCondition name) : '}' ∉ name := by
  obtain ⟨field, word, rfl⟩ := isCondition_iff.mp h
  exact (isPlain_conditionName word).not_mem_close

instance (t : Text) : Decidable (Closes isWord t) :=
  decidable_of_iff' _ (closes_iff fun _ => no_close_of_isWord)

instance (t : Text) : Decidable (Closes isCondition t) :=
  decidable_of_iff' _ (closes_iff fun _ => no_close_of_isCondition)

theorem loopText_eq (data : Node) (name body : Text) :
    loopText data name body =
      match data.lookup? name with
      | some (.list elements) =>
        (elements.zipIdx 1).flatMap fun (element, position) =>
          interpolate element (some position) body
      | _ => [] := by
  unfold loopText
  cases data.lookup? name with
  | none => rfl
  | some found => cases found <;> rfl

theorem conditionText_eq (data : Node) (name body : Text) :
    conditionText data name body =
      match (data.lookup? name).bind Node.text? with
      | some value => if value.trim = [] then [] else body
      | none => [] := by
  unfold conditionText holds Node.lookupText?
  cases (data.lookup? name).bind Node.text? with
  | none => rfl
  | some value =>
    by_cases blank : value.allBlank <;> simp [Text.trim_eq_nil_iff, blank]

/-- A text is split into blocks in exactly one way, for loops as for conditions. In place of a loop
there is its body for each element of the list, if there is one, and in place of a condition its
body, if the field has a text that is not blank; and nothing else is changed. -/
theorem passes_eq_fill (source : Text) (data : Node) :
    ((∃! regions, Regions.Of isWord source regions) ∧
      ∀ regions, Regions.Of isWord source regions →
        expandLoops data source = regions.fill fun name body =>
          match data.lookup? name with
          | some (.list elements) =>
            (elements.zipIdx 1).flatMap fun (element, position) =>
              interpolate element (some position) body
          | _ => []) ∧
    ((∃! regions, Regions.Of isCondition source regions) ∧
      ∀ regions, Regions.Of isCondition source regions →
        applyConditions data source = regions.fill fun name body =>
          match (data.lookup? name).bind Node.text? with
          | some value => if value.trim = [] then [] else body
          | none => []) ∧
    ∀ name, isCondition name ↔ ∃ field, isWord field ∧ name = conditionName field := by
  refine ⟨⟨Regions.existsUnique_of (fun _ => no_close_of_isWord) source, ?_⟩,
    ⟨Regions.existsUnique_of (fun _ => no_close_of_isCondition) source, ?_⟩,
    fun name => isCondition_iff⟩
  · rintro regions ⟨rfl, nearest⟩
    refine (nearest.scan (fun _ => no_close_of_isWord) (loopText data)).trans ?_
    exact congrArg regions.fill (funext₂ fun name body => loopText_eq data name body)
  · rintro regions ⟨rfl, nearest⟩
    refine (nearest.scan (fun _ => no_close_of_isCondition) (conditionText data)).trans ?_
    exact congrArg regions.fill (funext₂ fun name body => conditionText_eq data name body)

def linkName : Text := conditionName ['t']

/-- A loop and a condition that overlap, with an open tag in front and another inside of them that
are never closed: `{{#b}}{{#socialLinks.t}}-{{#a}}{{.}}{{#b}}{{/socialLinks.t}}{{/a}}`. -/
def tangle : Text :=
  openTag ['b'] ++ openTag linkName ++ '-' :: openTag ['a'] ++ marker ['.'] ++ openTag ['b'] ++
    closeTag linkName ++ closeTag ['a']

def tangledLoop : Regions :=
  .block (openTag ['b'] ++ openTag linkName ++ ['-']) ['a']
    (marker ['.'] ++ openTag ['b'] ++ closeTag linkName) (.outside [])

def tangledCondition : Regions :=
  .block (openTag ['b']) linkName ('-' :: openTag ['a'] ++ marker ['.'] ++ openTag ['b'])
    (.outside (closeTag ['a']))

def tangledContent : Node :=
  .group
    [(['a'], .list [.text ['1'], .text ['2']]), (conditionScope, .group [(['t'], .text ['!'])])]

/-- Each pass has its own blocks in the same text, and takes the tags of the other for text. -/
theorem passes_eq_fill_tangle :
    Regions.Of isWord tangle tangledLoop ∧
      expandLoops tangledContent tangle =
        openTag ['b'] ++ openTag linkName ++ '-' :: '1' :: openTag ['b'] ++ closeTag linkName ++
          '2' :: openTag ['b'] ++ closeTag linkName ∧
    Regions.Of isCondition tangle tangledCondition ∧
      applyConditions tangledContent tangle =
        openTag ['b'] ++ '-' :: openTag ['a'] ++ marker ['.'] ++ openTag ['b'] ++
          closeTag ['a'] := by
  have loops : Regions.Of isWord tangle tangledLoop := ⟨by decide, by decide +kernel⟩
  have conditions : Regions.Of isCondition tangle tangledCondition :=
    ⟨by decide, by decide +kernel⟩
  obtain ⟨⟨_, expanded⟩, ⟨_, settled⟩, _⟩ := passes_eq_fill tangle tangledContent
  exact ⟨loops, (expanded _ loops).trans (by decide), conditions,
    (settled _ conditions).trans (by decide)⟩

end Pagecraft.Template
