import Mathlib.Data.List.TakeWhile
import Pagecraft.Number.Power
import Pagecraft.Proofs.Json.Numeral
import Pagecraft.Text.Blank

/-! Decimal numerals. A number is read from its numeral again, with or without zeros in front, and
a row of digits ends where it ended when it was written. -/
namespace Pagecraft.Text

theorem not_isBlank_of_isDigit {c : Char} (digit : c.isDigit) : ¬isBlank c := by
  obtain ⟨low, high⟩ := Char.isDigit_iff_toNat.mp digit
  rw [show '0'.toNat = 48 from rfl] at low
  rw [show '9'.toNat = 57 from rfl] at high
  simp [isBlank, Blank.table]
  omega

theorem ofNat_ne_nil (n : Nat) : ofNat n ≠ [] := Nat.toDigits_ne_nil

theorem exists_cons_ofNat (n : Nat) : ∃ c t, ofNat n = c :: t ∧ c.isDigit := by
  obtain ⟨c, t, digits⟩ := List.exists_cons_of_ne_nil (ofNat_ne_nil n)
  exact ⟨c, t, digits, isDigit_of_mem_ofNat (n := n) (by simp [digits])⟩

theorem head?_ofNat {n : Nat} (h : 0 < n) : (ofNat n).head? ≠ some '0' := by
  induction n using Nat.strongRecOn with
  | _ n ih =>
    by_cases small : n < 10
    · rw [ofNat, Nat.toDigits_of_lt_base small, List.head?_cons]
      intro zero
      have : n = 0 := Nat.digitChar_eq_zero.mp (Option.some.inj zero)
      omega
    · have tens : 0 < n / 10 := Nat.div_pos (by omega) (by decide)
      have first := ih (n / 10) (Nat.div_lt_self h (by decide)) tens
      obtain ⟨c, rest, digits⟩ := List.exists_cons_of_ne_nil (ofNat_ne_nil (n / 10))
      rw [digits] at first
      unfold ofNat at digits ⊢
      rw [Nat.toDigits_of_base_le (by decide) (by omega), digits]
      exact first

theorem ofDigitChars_ofNatPadded (width n : Nat) :
    Nat.ofDigitChars 10 (ofNatPadded width n) 0 = n := by
  rw [ofNatPadded, Nat.ofDigitChars_append, Nat.ofDigitChars_replicate_zero, Nat.mul_zero, ofNat,
    Nat.ofDigitChars_ten_toDigits]

theorem isDigit_of_mem_ofNatPadded {width n : Nat} {c : Char} (h : c ∈ ofNatPadded width n) :
    c.isDigit := by
  rcases List.mem_append.mp h with zero | digit
  · rw [List.eq_of_mem_replicate zero]
    rfl
  · exact isDigit_of_mem_ofNat digit

theorem length_ofNatPadded {width n : Nat} (pos : 0 < width) (h : n < tenTo width) :
    (ofNatPadded width n).length = width := by
  have fits : (ofNat n).length ≤ width := (Nat.length_toDigits_le_iff (by decide) pos).mpr h
  rw [ofNatPadded, List.length_append, List.length_replicate]
  omega

theorem ofNatPadded_ne_nil (width n : Nat) : ofNatPadded width n ≠ [] := fun nil =>
  ofNat_ne_nil n (List.append_eq_nil_iff.mp nil).2

theorem exists_cons_ofNatPadded (width n : Nat) :
    ∃ c t, ofNatPadded width n = c :: t ∧ c.isDigit := by
  obtain ⟨c, t, digits⟩ := List.exists_cons_of_ne_nil (ofNatPadded_ne_nil width n)
  exact ⟨c, t, digits, isDigit_of_mem_ofNatPadded (by rw [digits]; exact List.mem_cons_self)⟩

theorem toNat?_of_digits {t : Text} (ne : t ≠ []) (digits : ∀ c ∈ t, c.isDigit) :
    toNat? t = some (Nat.ofDigitChars 10 t 0) := by
  have all : t.all Char.isDigit := List.all_eq_true.mpr digits
  simp [toNat?, ne, all]

theorem toNat?_ofNatPadded (width n : Nat) : toNat? (ofNatPadded width n) = some n := by
  rw [toNat?_of_digits (ofNatPadded_ne_nil width n) fun _ => isDigit_of_mem_ofNatPadded,
    ofDigitChars_ofNatPadded]

def noDigit (t : Text) : Bool := !t.head?.any Char.isDigit

theorem takeWhile_isDigit_append {t rest : Text} (digits : ∀ c ∈ t, c.isDigit)
    (ends : noDigit rest) : (t ++ rest).takeWhile Char.isDigit = t := by
  rw [List.takeWhile_append_of_pos digits]
  cases rest with
  | nil => exact List.append_nil t
  | cons c rest =>
    have other : ¬c.isDigit := by simpa [noDigit] using ends
    rw [List.takeWhile_cons_of_neg other, List.append_nil]

theorem dropWhile_isDigit_append {t rest : Text} (digits : ∀ c ∈ t, c.isDigit)
    (ends : noDigit rest) : (t ++ rest).dropWhile Char.isDigit = rest := by
  rw [List.dropWhile_append_of_pos digits]
  cases rest with
  | nil => rfl
  | cons c rest =>
    have other : ¬c.isDigit := by simpa [noDigit] using ends
    rw [List.dropWhile_cons_of_neg other]

end Pagecraft.Text
