import Pagecraft.Json.Printer

/-! The characters of printed numbers. None of them means anything in a template. -/
namespace Pagecraft

def isNumeralChar (c : Char) : Bool :=
  c.isDigit || c = '-' || c = '+' || c = '.' || c = 'e'

theorem isNumeralChar_of_isDigit {c : Char} (h : c.isDigit) : isNumeralChar c := by
  simp [isNumeralChar, h]

theorem Text.isDigit_of_mem_ofNat {n : Nat} {c : Char} (h : c ∈ Text.ofNat n) : c.isDigit :=
  Nat.isDigit_of_mem_toDigits (by decide) (by decide) h

theorem Text.isNumeralChar_of_mem_ofInt {value : Int} {c : Char} (h : c ∈ Text.ofInt value) :
    isNumeralChar c := by
  cases value with
  | ofNat n => exact isNumeralChar_of_isDigit (isDigit_of_mem_ofNat h)
  | negSucc n =>
    rcases List.mem_cons.mp h with rfl | h
    · rfl
    · exact isNumeralChar_of_isDigit (isDigit_of_mem_ofNat h)

theorem Shortest.isDigit_of_mem_trimmed {number : Nat} {exponent : Int} {c : Char}
    (h : c ∈ (trimmed number exponent).digits) : c.isDigit := by
  have mem := (List.dropWhile_sublist _).subset (List.mem_reverse.mp h)
  exact Text.isDigit_of_mem_ofNat (List.mem_reverse.mp mem)

theorem Shortest.isDigit_of_mem_digits {magnitude : Nat} {c : Char}
    (h : c ∈ (ofMagnitude magnitude).digits) : c.isDigit := by
  have ⟨number, exponent, shown⟩ : ∃ number exponent,
      ofMagnitude magnitude = trimmed number exponent := by
    unfold ofMagnitude
    extract_lets top found
    cases answer : found with
    | none => exact ⟨_, _, rfl⟩
    | some decimal =>
      obtain ⟨i, _, chosen⟩ := List.exists_of_findSome?_eq_some answer
      obtain ⟨number, _, rfl⟩ := Option.map_eq_some_iff.mp chosen
      exact ⟨number, top - i, rfl⟩
  rw [shown] at h
  exact isDigit_of_mem_trimmed h

theorem Json.Number.isNumeralChar_of_mem_ofDouble {value : Binary64} :
    ∀ c ∈ Number.ofDouble value, isNumeralChar c := by
  have digit := @Shortest.isDigit_of_mem_digits value.magnitude
  have zeros (n : Nat) : ∀ c ∈ List.replicate n '0', isNumeralChar c := by
    intro c mem
    rw [List.eq_of_mem_replicate mem]
    rfl
  have exponents (e : Int) : ∀ c ∈ Text.ofInt e, isNumeralChar c := fun _ =>
    Text.isNumeralChar_of_mem_ofInt
  have sign : ∀ c ∈ (if value.negative then ['-'] else [] : Text), isNumeralChar c := by
    cases value.negative <;> simp [isNumeralChar]
  rw [Number.ofDouble]
  generalize Shortest.ofMagnitude value.magnitude = decimal at digit
  obtain ⟨digits, exponent⟩ := decimal
  have all : ∀ c ∈ digits, isNumeralChar c := fun _ mem => isNumeralChar_of_isDigit (digit mem)
  have take (n : Nat) : ∀ c ∈ digits.take n, isNumeralChar c := fun c mem =>
    all c (List.mem_of_mem_take mem)
  have drop (n : Nat) : ∀ c ∈ digits.drop n, isNumeralChar c := fun c mem =>
    all c (List.mem_of_mem_drop mem)
  have point : isNumeralChar '.' ∧ isNumeralChar '0' ∧ isNumeralChar 'e' ∧ isNumeralChar '+' := by
    decide
  split
  · simp_all only [List.forall_mem_append, List.forall_mem_cons]
    simp
  · simp only [List.forall_mem_append]
    refine ⟨sign, ?_⟩
    split
    · simp only [List.forall_mem_append, List.forall_mem_cons]
      refine ⟨⟨take _, zeros _⟩, point.1, ?_⟩
      split
      · simpa using point.2.1
      · exact drop _
    · split
      · simp only [List.forall_mem_append, List.forall_mem_cons]
        exact ⟨⟨⟨point.2.1, point.1, by simp⟩, zeros _⟩, all⟩
      · simp only [List.forall_mem_append, List.forall_mem_cons]
        refine ⟨⟨take _, ?_⟩, point.2.2.1, ?_⟩
        · split
          · simp
          · simpa only [List.forall_mem_cons] using ⟨point.1, drop _⟩
        · split
          · simpa only [List.forall_mem_cons] using ⟨point.2.2.2, exponents _⟩
          · exact exponents _

theorem Json.Number.isNumeralChar_of_mem_text {number : Json.Number} {c : Char}
    (h : c ∈ number.text) : isNumeralChar c := by
  cases number with
  | integer value => exact Text.isNumeralChar_of_mem_ofInt h
  | float value =>
    rw [Number.text] at h
    exact isNumeralChar_of_mem_ofDouble c h

end Pagecraft
