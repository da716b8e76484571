import Pagecraft.Text.Basic

/-! Small letters. Only a letter is changed when a text is put in small letters, and it becomes a
letter. -/
namespace Pagecraft

theorem eq_of_toLower_eq {c d : Char} (other : ¬d.isLower) (h : c.toLower = d) : c = d := by
  unfold Char.toLower at h
  split at h
  case isTrue upper =>
    have least : 65 ≤ c.val.toNat := UInt32.le_iff_toNat_le.mp upper.1
    have most : c.val.toNat ≤ 90 := UInt32.le_iff_toNat_le.mp upper.2
    have small : (c.val + ('a'.val - 'A'.val)).toNat = c.val.toNat + 32 := by
      rw [UInt32.toNat_add]
      apply Nat.mod_eq_of_lt
      change c.val.toNat + 32 < 2 ^ 32
      omega
    subst h
    refine absurd (Bool.and_eq_true_iff.mpr ⟨decide_eq_true ?_, decide_eq_true ?_⟩) other
    · apply UInt32.le_iff_toNat_le.mpr
      change 97 ≤ (c.val + ('a'.val - 'A'.val)).toNat
      omega
    · apply UInt32.le_iff_toNat_le.mpr
      change (c.val + ('a'.val - 'A'.val)).toNat ≤ 122
      omega
  case isFalse => exact h

namespace Text

theorem eq_of_lower_eq {s t : Text} (other : t.all (!·.isLower)) (h : lower s = t) : s = t := by
  induction s generalizing t with
  | nil => exact h
  | cons c s ih =>
    cases t with
    | nil => cases h
    | cons d t =>
      obtain ⟨first, rest⟩ := List.cons.inj h
      rw [List.all_cons, Bool.and_eq_true] at other
      rw [eq_of_toLower_eq (by simpa using other.1) first, ih other.2 rest]

theorem mem_of_mem_lower {c : Char} {t : Text} (other : ¬c.isLower) (mem : c ∈ lower t) :
    c ∈ t := by
  obtain ⟨original, among, eq⟩ := List.mem_map.mp mem
  exact eq_of_toLower_eq other eq ▸ among

end Text
end Pagecraft
