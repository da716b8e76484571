import Pagecraft.Text.Basic

/-! The order of texts: by the first character in which they differ, and a text before all that
it begins. Characters are ordered by code point, which is also the order of their UTF-8 bytes. -/
namespace Pagecraft.Text

def before : Text → Text → Bool
  | _, [] => false
  | [], _ :: _ => true
  | a :: s, b :: t => a.toNat < b.toNat || a = b && before s t

theorem not_before_self (t : Text) : ¬before t t := by
  induction t with
  | nil => simp [before]
  | cons c t ih => simpa [before] using ih

theorem before_trans {r s t : Text} (h : before r s) (h' : before s t) : before r t := by
  fun_induction before r s generalizing t with
  | case1 => simp at h
  | case2 => cases t <;> simp_all [before]
  | case3 a r b s ih =>
    cases t with
    | nil => simp [before] at h'
    | cons c t =>
      simp only [before, Bool.or_eq_true, Bool.and_eq_true, decide_eq_true_eq] at h h' ⊢
      rcases h with h | ⟨rfl, h⟩ <;> rcases h' with h' | ⟨rfl, h'⟩
      · exact .inl (Nat.lt_trans h h')
      · exact .inl h
      · exact .inl h'
      · exact .inr ⟨rfl, ih h h'⟩

theorem before_of_not_before {s t : Text} (h : ¬before s t) (ne : s ≠ t) : before t s := by
  fun_induction before s t with
  | case1 s =>
    cases s with
    | nil => exact absurd rfl ne
    | cons => rfl
  | case2 => simp at h
  | case3 a s b t ih =>
    simp only [before, Bool.or_eq_true, Bool.and_eq_true, decide_eq_true_eq, not_or, not_and] at *
    by_cases same : a = b
    · subst same
      exact .inr ⟨rfl, ih (h.2 rfl) fun eq => ne (by rw [eq])⟩
    · have : a.toNat ≠ b.toNat := fun eq => same (Char.toNat_inj.mp eq)
      exact .inl (by omega)

end Pagecraft.Text
