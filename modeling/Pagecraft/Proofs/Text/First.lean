import Mathlib.Data.List.Infix
import Pagecraft.Text.Basic

/-! Where something begins first in a text. Whatever is looked for, what stands in front of the
first place where it begins is determined by the text. -/
namespace Pagecraft.Text

/-- That nothing of a kind begins inside of `u` if `t` follows it. -/
def NoneIn (begins : Text → Prop) (u t : Text) : Prop :=
  ∀ s, s ≠ [] → s <:+ u → ¬begins (s ++ t)

instance (begins : Text → Prop) [DecidablePred begins] (u t : Text) :
    Decidable (NoneIn begins u t) :=
  decidable_of_iff (∀ s ∈ u.tails, s ≠ [] → ¬begins (s ++ t)) <| by
    simp only [List.mem_tails, NoneIn]
    exact forall_congr' fun s => forall_comm

variable {begins : Text → Prop}

namespace NoneIn

theorem nil (t : Text) : NoneIn begins [] t := fun _ ne suffix =>
  absurd (List.suffix_nil.mp suffix) ne

theorem cons {c : Char} {u t : Text} (none : NoneIn begins u t) (h : ¬begins (c :: (u ++ t))) :
    NoneIn begins (c :: u) t := by
  intro s ne suffix
  rcases List.suffix_cons_iff.mp suffix with rfl | suffix
  · exact h
  · exact none s ne suffix

theorem eq_nil {u more t : Text} (none : NoneIn begins (u ++ more) t) (h : begins (more ++ t)) :
    more = [] := by
  by_contra ne
  exact none more ne (List.suffix_append u more) h

theorem eq_of_append_eq {u v s t : Text} (none : NoneIn begins u s) (none' : NoneIn begins v t)
    (here : begins s) (there : begins t) (h : u ++ s = v ++ t) : u = v := by
  rcases List.append_eq_append_iff.mp h with ⟨more, rfl, rest⟩ | ⟨more, rfl, rest⟩
  · rw [rest] at here
    rw [none'.eq_nil here, List.append_nil]
  · rw [rest] at there
    rw [none.eq_nil there, List.append_nil]

end NoneIn

theorem noneIn_or_exists_first (begins : Text → Prop) (t : Text) :
    NoneIn begins t [] ∨ ∃ u v, t = u ++ v ∧ begins v ∧ NoneIn begins u v := by
  induction t with
  | nil => exact .inl (.nil [])
  | cons c t ih =>
    by_cases here : begins (c :: t)
    · exact .inr ⟨[], c :: t, rfl, here, .nil _⟩
    · rcases ih with none | ⟨u, v, rfl, there, none⟩
      · refine .inl (none.cons ?_)
        rwa [List.append_nil]
      · exact .inr ⟨c :: u, v, rfl, there, none.cons here⟩

end Pagecraft.Text
