import Pagecraft.Proofs.Content.Slice
import Pagecraft.Proofs.Template.Blocks
import Pagecraft.Template.Slice

/-! Markers and blocks by slices. At a boundary of a source that is read which the text behind it begins
with, and the offset at which that ends is where the rest of the text begins. Elsewhere nothing is
read. -/
namespace Pagecraft.Sliced
open Text Template

def behind (source rest : Text) : Nat := byteCount source - byteCount rest

@[simp] theorem behind_append (front rest : Text) :
    behind (front ++ rest) rest = byteCount front := by
  rw [behind, byteCount_append, Nat.add_sub_cancel]

theorem behind_append_append (front taken rest : Text) :
    behind (front ++ (taken ++ rest)) rest = byteCount front + byteCount taken := by
  rw [← List.append_assoc, behind_append, byteCount_append]

theorem byteCount_marker (body : Text) : byteCount (marker body) = 2 + byteCount body + 2 := by
  rw [marker_eq, byteCount_cons, byteCount_cons, byteCount_append]
  have opening : Char.utf8Size '{' = 1 := rfl
  have closing : byteCount ['}', '}'] = 2 := rfl
  omega

theorem marker?_of_not_mem {inner : Text} (open' : '}' ∉ inner) :
    marker? ('{' :: '{' :: inner) = none := by
  rw [Option.eq_none_iff_forall_ne_some]
  rintro ⟨body, rest⟩ read
  obtain ⟨_, _, eq⟩ := marker?_eq_some_iff.mp read
  rw [marker_eq, List.cons_append, List.cons_append, List.cons_inj_right, List.cons_inj_right] at eq
  simp [eq] at open'

theorem marker?_append_cons {body : Text} (absent : '}' ∉ body) (after : Text) :
    marker? ('{' :: '{' :: (body ++ '}' :: after)) =
      if body.isEmpty then none
      else (dropMark? ['}', '}'] ('}' :: after)).map fun rest => (body, rest) := by
  have inBody : ∀ c ∈ body, (c != '}') = true := by
    intro c mem
    simpa using ne_of_mem_of_not_mem mem absent
  rw [marker?, List.takeWhile_append_of_pos inBody, List.dropWhile_append_of_pos inBody]
  cases body with
  | nil => rfl
  | cons c body =>
    cases after with
    | nil => rfl
    | cons d after =>
      by_cases closing : d = '}'
      · subst closing
        simp [dropMark?]
      · have open' : dropMark? ['}', '}'] ('}' :: d :: after) = none := by
          simp [dropMark?, Ne.symm closing]
        simp [open', closing]

theorem mark_of_not_opens {t : Text} (closed : ¬opens t) (front : Text) :
    mark (front ++ t) (byteCount front) = pure none := by
  have nothing : dropMark? ['{', '{'] t = none := by
    rw [dropMark?_eq_none_iff]
    rintro inner rfl
    exact closed rfl
  rw [mark, cutAt?_append, Option.bind_some]
  dsimp only
  rw [nothing]

theorem mark_of_not_mem {inner : Text} (open' : '}' ∉ inner) (front : Text) :
    mark (front ++ '{' :: '{' :: inner) (byteCount front) = pure none := by
  have all : slice inner 0 (byteCount inner) = pure inner := by
    have whole := slice_zero inner []
    rwa [List.append_nil] at whole
  have nothing : sliceFrom inner (byteCount inner) = pure [] := by
    have whole := sliceFrom_append inner []
    rwa [List.append_nil] at whole
  have opening : dropMark? ['{', '{'] ('{' :: '{' :: inner) = some inner := rfl
  rw [mark, cutAt?_append, Option.bind_some]
  simp only [opening, find?_of_not_mem open', Option.getD_none, all, nothing, pure_bind]
  cases inner <;> rfl

theorem mark_append_cons {body : Text} (absent : '}' ∉ body) (front after : Text) :
    mark (front ++ '{' :: '{' :: (body ++ '}' :: after)) (byteCount front) =
      if body.isEmpty then pure none
      else if (dropMark? ['}', '}'] ('}' :: after)).isSome then
        pure (some ⟨body, byteCount front + 2 + byteCount body + 2⟩)
      else pure none := by
  have opening : dropMark? ['{', '{'] ('{' :: '{' :: (body ++ '}' :: after)) =
      some (body ++ '}' :: after) := rfl
  rw [mark, cutAt?_append, Option.bind_some]
  simp only [opening, find?_append_cons absent, Option.getD_some, slice_zero, sliceFrom_append,
    pure_bind]

theorem mark_append (front t : Text) :
    mark (front ++ t) (byteCount front) =
      pure ((marker? t).map fun (body, rest) => ⟨body, behind (front ++ t) rest⟩) := by
  by_cases opened : opens t
  · obtain ⟨inner, rfl⟩ := opens_iff.mp opened
    rw [List.cons_append, List.cons_append, List.nil_append]
    by_cases closing : '}' ∈ inner
    · obtain ⟨body, after, rfl, absent⟩ := List.eq_append_cons_of_mem closing
      rw [mark_append_cons absent, marker?_append_cons absent]
      cases body.isEmpty with
      | true => rfl
      | false =>
        cases ends : dropMark? ['}', '}'] ('}' :: after) with
        | none => rfl
        | some rest =>
          have whole : '{' :: '{' :: (body ++ '}' :: after) = marker body ++ rest := by
            rw [dropMark?_eq_some_iff.mp ends, marker_eq]
            simp
          have stop : behind (front ++ '{' :: '{' :: (body ++ '}' :: after)) rest =
              byteCount front + 2 + byteCount body + 2 := by
            rw [whole, behind_append_append, byteCount_marker]
            omega
          simp [stop]
    · rw [mark_of_not_mem closing, marker?_of_not_mem closing]
      rfl
  · rw [mark_of_not_opens opened, marker?_of_not_opens opened]
    rfl

theorem mark_of_not_isBoundary {source : Text} {start : Nat} (h : ¬IsBoundary source start) :
    mark source start = pure none := by
  rw [isBoundary_iff, Option.not_isSome_iff_eq_none] at h
  rw [mark, h]
  rfl

theorem region_of_not_isBoundary {source : Text} {start : Nat} (h : ¬IsBoundary source start)
    (accept : Text → Bool) : region accept source start = pure none := by
  rw [region, mark_of_not_isBoundary h]
  rfl

theorem region_append (accept : Text → Bool) (front t : Text) :
    region accept (front ++ t) (byteCount front) =
      pure ((block? accept t).map fun b => ⟨b.name, b.body, behind (front ++ t) b.rest⟩) := by
  rw [region, mark_append, pure_bind]
  cases opening : marker? t with
  | none =>
    rw [block?_of_marker?_eq_none opening]
    rfl
  | some parts =>
    obtain ⟨tag, after⟩ := parts
    obtain ⟨_, _, rfl⟩ := marker?_eq_some_iff.mp opening
    simp only [block?, opening, Option.map_some, Option.bind_eq_bind, Option.bind_some]
    cases dropMark? ['#'] tag with
    | none => rfl
    | some name =>
      by_cases accepted : accept name
      · simp only [Option.bind_some, behind_append_append, accepted, if_true]
        rw [← List.append_assoc, ← byteCount_append, sliceFrom_append, pure_bind, find?]
        cases closing : cut? (closeTag name) after with
        | none => rfl
        | some inside =>
          obtain ⟨body, rest⟩ := inside
          obtain rfl := eq_append_of_cut? closing
          have between := slice_append_append (front ++ marker tag) body (closeTag name ++ rest)
          rw [← List.append_assoc body] at between
          have stop : behind (front ++ marker tag ++ (body ++ closeTag name ++ rest)) rest =
              byteCount (front ++ marker tag) + byteCount body + byteCount (closeTag name) := by
            rw [behind_append_append, byteCount_append body, Nat.add_assoc]
          simp only [Option.map_some, Option.bind_some, between, pure_bind]
          rw [← stop]
          rfl
      · simp [accepted]

theorem exists_mark (source : Text) (start : Nat) : ∃ found, mark source start = pure found := by
  by_cases boundary : IsBoundary source start
  · obtain ⟨front, t, rfl, rfl⟩ := boundary
    exact ⟨_, mark_append front t⟩
  · exact ⟨none, mark_of_not_isBoundary boundary⟩

theorem exists_region (accept : Text → Bool) (source : Text) (start : Nat) :
    ∃ found, region accept source start = pure found := by
  by_cases boundary : IsBoundary source start
  · obtain ⟨front, t, rfl, rfl⟩ := boundary
    exact ⟨_, region_append accept front t⟩
  · exact ⟨none, region_of_not_isBoundary boundary accept⟩

end Pagecraft.Sliced
