import Mathlib.Data.List.Basic
import Pagecraft.Text.Order
import Pagecraft.Text.Utf8

/-! The order of texts is that of their bytes, and no two texts have the same bytes. -/
namespace Pagecraft.Text

theorem utf8_injective {s t : Text} (h : s.utf8 = t.utf8) : s = t := by
  have read := ofUtf8?_utf8 s
  rw [h, ofUtf8?_utf8] at read
  exact (Option.some.inj read).symm

theorem utf8EncodeChar_append_lt {a b : Char} (h : a.toNat < b.toNat) (s t : Bytes) :
    String.utf8EncodeChar a ++ s < String.utf8EncodeChar b ++ t := by
  have bound : b.toNat < 0x110000 := by
    have := b.valid
    unfold UInt32.isValidChar Nat.isValidChar at this
    have : b.toNat = b.val.toNat := rfl
    omega
  unfold String.utf8EncodeChar
  have left : a.val.toNat = a.toNat := rfl
  have right : b.val.toNat = b.toNat := rfl
  rw [left, right]
  dsimp only
  generalize a.toNat = m at h
  generalize b.toNat = n at h bound
  -- Six bits at a time, so that the quotients are comparable.
  have twice (v : Nat) : v / 4096 = v / 64 / 64 := by omega
  have thrice (v : Nat) : v / 262144 = v / 64 / 64 / 64 := by omega
  simp only [twice, thrice]
  split_ifs <;>
    simp only [List.cons_append, List.nil_append, List.cons_lt_cons_iff, UInt8.lt_iff_toNat_lt,
      ← UInt8.toNat_inj, UInt8.toNat_ofNat'] <;>
    omega

theorem before_iff_utf8_lt {s t : Text} : before s t ↔ s.utf8 < t.utf8 := by
  have forward : ∀ {s t : Text}, before s t → s.utf8 < t.utf8 := by
    intro s t h
    fun_induction before s t with
    | case1 => cases h
    | case2 b t =>
      obtain ⟨first, more, eq⟩ := List.exists_cons_of_ne_nil (@String.utf8EncodeChar_ne_nil b)
      simp [utf8, eq]
    | case3 a s b t ih =>
      rcases Bool.or_eq_true_iff.mp h with less | same
      · exact utf8EncodeChar_append_lt (of_decide_eq_true less) _ _
      · obtain ⟨eq, later⟩ := Bool.and_eq_true_iff.mp same
        obtain rfl := of_decide_eq_true eq
        exact List.append_left_lt (ih later)
  refine ⟨forward, fun less => ?_⟩
  by_contra notBefore
  by_cases same : s = t
  · exact List.lt_irrefl _ (same ▸ less)
  · exact List.lt_asymm less (forward (before_of_not_before notBefore same))

end Pagecraft.Text
