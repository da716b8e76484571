import Pagecraft.Proofs.Text.Cut
import Pagecraft.Text.Slice

/-! Which slices can be taken. A byte offset is a boundary if it is the length of what a text begins
with. A slice from one boundary to another is what stands between them, and there is no other. -/
namespace Pagecraft

namespace Text

@[simp] theorem byteCount_nil : byteCount [] = 0 := rfl

@[simp] theorem byteCount_cons (c : Char) (t : Text) :
    byteCount (c :: t) = c.utf8Size + byteCount t := by
  rw [byteCount, utf8, List.flatMap_cons, List.length_append, String.length_utf8EncodeChar]
  rfl

@[simp] theorem byteCount_append (s t : Text) :
    byteCount (s ++ t) = byteCount s + byteCount t := by
  induction s with
  | nil => simp
  | cons c s ih => rw [List.cons_append, byteCount_cons, byteCount_cons, ih, Nat.add_assoc]

theorem byteCount_eq_zero_iff {t : Text} : byteCount t = 0 ↔ t = [] := by
  cases t with
  | nil => simp
  | cons c t =>
    have positive := c.utf8Size_pos
    simp only [byteCount_cons, List.cons_ne_nil, iff_false]
    omega

/-- That characters of a text end at a byte offset, or none begin before it. -/
def IsBoundary (t : Text) (offset : Nat) : Prop :=
  ∃ front back, t = front ++ back ∧ byteCount front = offset

theorem isBoundary_append (front back : Text) : (front ++ back).IsBoundary (byteCount front) :=
  ⟨front, back, rfl, rfl⟩

theorem IsBoundary.le {t : Text} {offset : Nat} (h : t.IsBoundary offset) :
    offset ≤ byteCount t := by
  obtain ⟨front, back, rfl, rfl⟩ := h
  rw [byteCount_append]
  omega

theorem cutAt?_append (front back : Text) :
    cutAt? (byteCount front) (front ++ back) = some (front, back) := by
  induction front with
  | nil => cases back <;> rfl
  | cons c front ih =>
    have positive := c.utf8Size_pos
    obtain ⟨offset, eq⟩ : ∃ offset, byteCount (c :: front) = offset + 1 :=
      Nat.exists_eq_add_one.mpr (by rw [byteCount_cons]; omega)
    have rest : offset + 1 - c.utf8Size = byteCount front := by
      rw [← eq, byteCount_cons]
      omega
    have fits : c.utf8Size ≤ offset + 1 := by
      rw [← eq, byteCount_cons]
      omega
    rw [eq, List.cons_append, cutAt?, if_pos fits, rest, ih]
    rfl

theorem eq_append_of_cutAt? {offset : Nat} {t front back : Text}
    (h : cutAt? offset t = some (front, back)) : t = front ++ back ∧ byteCount front = offset := by
  fun_induction cutAt? offset t generalizing front with
  | case1 t =>
    cases h
    exact ⟨rfl, rfl⟩
  | case2 => cases h
  | case3 offset c t fits ih =>
    obtain ⟨⟨inner, _⟩, found, eq⟩ := Option.map_eq_some_iff.mp h
    cases eq
    obtain ⟨rfl, count⟩ := ih found
    refine ⟨rfl, ?_⟩
    rw [byteCount_cons, count]
    omega
  | case4 => cases h

theorem isBoundary_iff {t : Text} {offset : Nat} :
    t.IsBoundary offset ↔ (t.cutAt? offset).isSome := by
  rw [Option.isSome_iff_exists]
  constructor
  · rintro ⟨front, back, rfl, rfl⟩
    exact ⟨_, cutAt?_append front back⟩
  · rintro ⟨⟨front, back⟩, found⟩
    obtain ⟨eq, count⟩ := eq_append_of_cutAt? found
    exact ⟨front, back, eq, count⟩

instance (t : Text) (offset : Nat) : Decidable (t.IsBoundary offset) :=
  decidable_of_iff' _ isBoundary_iff

theorem exists_between {t : Text} {start stop : Nat} (ordered : start ≤ stop)
    (starts : t.IsBoundary start) (stops : t.IsBoundary stop) :
    ∃ front part back, t = front ++ part ++ back ∧ byteCount front = start ∧
      byteCount (front ++ part) = stop := by
  obtain ⟨front, rest, rfl, rfl⟩ := starts
  obtain ⟨outer, back, eq, rfl⟩ := stops
  rcases List.append_eq_append_iff.mp eq with ⟨part, rfl, rfl⟩ | ⟨excess, rfl, rfl⟩
  · exact ⟨front, part, back, (List.append_assoc _ _ _).symm, rfl, rfl⟩
  · rw [byteCount_append] at ordered
    have none : excess = [] := byteCount_eq_zero_iff.mp (by omega)
    subst none
    exact ⟨outer, [], rest, by simp, by simp, by simp⟩

theorem find?_of_not_mem {c : Char} {t : Text} (h : c ∉ t) : find? [c] t = none := by
  rw [find?, cut?_of_not_mem h, Option.map_none]

theorem find?_append_cons {c : Char} {before : Text} (h : c ∉ before) (after : Text) :
    find? [c] (before ++ c :: after) = some (byteCount before) := by
  rw [find?, cut?_append_cons h, Option.map_some]

end Text

namespace Sliced
open Text

theorem slice_append (front part back : Text) :
    slice (front ++ part ++ back) (byteCount front) (byteCount (front ++ part)) = pure part := by
  rw [slice, cutAt?_append, Option.bind_some]
  dsimp only
  rw [cutAt?_append]

theorem sliceFrom_append (front back : Text) :
    sliceFrom (front ++ back) (byteCount front) = pure back := by
  have whole := slice_append front back []
  rwa [List.append_nil] at whole

theorem slice_append_append (front part back : Text) :
    slice (front ++ (part ++ back)) (byteCount front) (byteCount front + byteCount part) =
      pure part := by
  rw [← List.append_assoc, ← byteCount_append, slice_append]

theorem slice_zero (part back : Text) : slice (part ++ back) 0 (byteCount part) = pure part :=
  slice_append [] part back

theorem exists_slice_iff {t : Text} {start stop : Nat} :
    (∃ part, slice t start stop = pure part) ↔
      start ≤ stop ∧ t.IsBoundary start ∧ t.IsBoundary stop := by
  constructor
  · rintro ⟨part, taken⟩
    unfold slice at taken
    split at taken
    case h_1 front part' cut =>
      obtain ⟨⟨outer, back⟩, outside, inside⟩ := Option.bind_eq_some_iff.mp cut
      obtain ⟨rfl, rfl⟩ := eq_append_of_cutAt? outside
      obtain ⟨rfl, rfl⟩ := eq_append_of_cutAt? inside
      refine ⟨?_, ⟨front, part' ++ back, List.append_assoc _ _ _, rfl⟩, isBoundary_append _ _⟩
      rw [byteCount_append]
      omega
    case h_2 => cases taken
  · rintro ⟨ordered, starts, stops⟩
    obtain ⟨front, part, back, rfl, rfl, rfl⟩ := exists_between ordered starts stops
    exact ⟨part, slice_append front part back⟩

section
variable {α β : Type} [Nonempty β] {f : α → Sliced (α ⊕ β)} {a : α}

theorem repeatM_of_eq_inl {next : α} (h : f a = pure (.inl next)) : repeatM f a = repeatM f next := by
  rw [repeatM_eq_of_monadTail, repeatM.body, h, pure_bind]

theorem repeatM_of_eq_inr {b : β} (h : f a = pure (.inr b)) : repeatM f a = pure b := by
  rw [repeatM_eq_of_monadTail, repeatM.body, h, pure_bind]

end
end Sliced
end Pagecraft
