import Pagecraft.Json.Reader
import Pagecraft.Proofs.Json.Values
import Pagecraft.Proofs.Text.Decimal

/-! Numbers and strings that were printed are read again: an integer by its digits, up to where no
numeral goes on, and a string up to its closing quote, by one glyph for each character. -/
namespace Pagecraft.Json

/-! White space -/

namespace Written

theorem skipSpace_append {s : Text} (space : ∀ c ∈ s, isSpace c) (t : Text) :
    skipSpace (s ++ t) = skipSpace t := List.dropWhile_append_of_pos space

theorem skipSpace_cons {c : Char} (h : ¬isSpace c) (t : Text) : skipSpace (c :: t) = c :: t :=
  List.dropWhile_cons_of_neg h

def endsNumeral : Text → Bool
  | [] => true
  | c :: _ => !(c.isDigit || c == '.' || c == 'e' || c == 'E')

theorem noDigit_of_endsNumeral {t : Text} (h : endsNumeral t) : Text.noDigit t := by
  cases t with
  | nil => rfl
  | cons c t =>
    simp only [endsNumeral, Bool.not_eq_true', Bool.or_eq_false_iff] at h
    simp [Text.noDigit, h]

theorem fraction?_of_endsNumeral {t : Text} (h : endsNumeral t) : fraction? t = some (none, t) := by
  rw [fraction?.eq_def]
  split
  · cases h
  · rfl

theorem exponent?_of_endsNumeral {t : Text} (h : endsNumeral t) : exponent? t = some (none, t) := by
  cases t with
  | nil => rfl
  | cons c t =>
    simp only [endsNumeral, Bool.not_eq_true', Bool.or_eq_false_iff, beq_eq_false_iff_ne] at h
    rw [exponent?.eq_def]
    exact if_neg (by simp [h])

end Written

/-! Integers -/

def digitValue (c : Char) : Nat := c.toNat - '0'.toNat

def Numeral.ofInt (value : Int) : Numeral :=
  ⟨value < 0, (Text.ofNat value.natAbs).map digitValue, none, none⟩

theorem digitValue_ne_zero {c : Char} (digit : c.isDigit) (ne : c ≠ '0') : digitValue c ≠ 0 := by
  have low : '0'.toNat ≤ c.toNat := (Char.isDigit_iff_toNat.mp digit).1
  have other : c.toNat ≠ '0'.toNat := fun same => ne (Char.toNat_inj.mp same)
  unfold digitValue
  omega

theorem Written.whole?_ofNat (n : Nat) {rest : Text} (ends : Text.noDigit rest) :
    whole? (Text.ofNat n ++ rest) = some ((Text.ofNat n).map digitValue, rest) := by
  have digits : digits (Text.ofNat n ++ rest) = ((Text.ofNat n).map digitValue, rest) := by
    rw [Written.digits, Text.takeWhile_isDigit_append (fun _ => Text.isDigit_of_mem_ofNat) ends,
      Text.dropWhile_isDigit_append (fun _ => Text.isDigit_of_mem_ofNat) ends]
    rfl
  rw [whole?, digits]
  obtain ⟨c, more, eq, digit⟩ := Text.exists_cons_ofNat n
  rw [eq, List.map_cons]
  cases more with
  | nil => rfl
  | cons d more =>
    have pos : 0 < n := by
      by_contra zero
      obtain rfl : n = 0 := by omega
      cases eq
    have ne : c ≠ '0' := by
      have first := Text.head?_ofNat pos
      rw [eq, List.head?_cons] at first
      exact fun same => first (congrArg some same)
    have first := digitValue_ne_zero digit ne
    rw [List.map_cons]
    split <;> simp_all

theorem Written.numeral?_of_unsigned {t : Text} (unsigned : ∀ rest, t ≠ '-' :: rest) :
    numeral? t = do
      let (whole, t) ← whole? t
      let (fraction, t) ← fraction? t
      let (exponent, t) ← exponent? t
      return (⟨false, whole, fraction, exponent⟩, t) := by
  simp only [numeral?]

theorem Written.numeral?_ofInt (value : Int) {rest : Text} (ends : endsNumeral rest) :
    numeral? (Text.ofInt value ++ rest) = some (.ofInt value, rest) := by
  have read (n : Nat) := whole?_ofNat n (noDigit_of_endsNumeral ends)
  cases value with
  | ofNat n =>
    rw [show Text.ofInt (.ofNat n) = Text.ofNat n from rfl, numeral?_of_unsigned]
    · simp [read, fraction?_of_endsNumeral ends, exponent?_of_endsNumeral ends, Numeral.ofInt]
    · obtain ⟨c, more, digits, digit⟩ := Text.exists_cons_ofNat n
      rw [digits]
      rintro _ eq
      rw [(List.cons.inj eq).1] at digit
      cases digit
  | negSucc n =>
    simp [Text.ofInt, numeral?, read, fraction?_of_endsNumeral ends,
      exponent?_of_endsNumeral ends, Numeral.ofInt]

namespace Numeral

theorem wholeSignificand_map {digits : Text} {start : Nat}
    (fits : Nat.ofDigitChars 10 digits start < UInt64.size) :
    wholeSignificand start (digits.map digitValue) = (Nat.ofDigitChars 10 digits start, 0) := by
  induction digits generalizing start with
  | nil => rfl
  | cons c digits ih =>
    rw [Nat.ofDigitChars_cons] at fits ⊢
    have grows : 10 * start + digitValue c ≤
        Nat.ofDigitChars 10 digits (10 * start + (c.toNat - '0'.toNat)) := by
      rw [Nat.ofDigitChars_eq_ofDigitChars_zero]
      exact Nat.le_trans (Nat.le_mul_of_pos_left _ (Nat.pow_pos (by decide))) (Nat.le_add_right _ _)
    have next : push? start (digitValue c) = some (10 * start + digitValue c) := by
      rw [push?, Nat.mul_comm, if_pos (Nat.lt_of_le_of_lt grows fits)]
    rw [List.map_cons, wholeSignificand, next]
    exact ih fits

theorem value?_ofInt {value : Int} (word : (Number.integer value).IsWord) :
    (ofInt value).value? = some (.integer value) := by
  have natAbs : Nat.ofDigitChars 10 (Text.ofNat value.natAbs) 0 = value.natAbs :=
    Nat.ofDigitChars_ten_toDigits
  obtain ⟨low, high⟩ := word
  have fits : Nat.ofDigitChars 10 (Text.ofNat value.natAbs) 0 < UInt64.size := by
    rw [natAbs, show UInt64.size = 18446744073709551616 from rfl]
    omega
  simp only [value?, ofInt, wholeSignificand_map fits, natAbs, Nat.lt_irrefl, if_false]
  by_cases negative : value < 0
  · have abs : ¬(value.natAbs = 0 ∨ value.natAbs > UInt64.size / 2) := by
      rw [show UInt64.size = 18446744073709551616 from rfl]
      omega
    simp only [negative, decide_true, Bool.not_true, abs, if_false, Bool.false_eq_true]
    rw [show -(value.natAbs : Int) = value by omega]
  · simp only [negative, decide_false, Bool.not_false, if_true]
    rw [show (value.natAbs : Int) = value by omega]

end Numeral

/-! Strings -/

/-- How a character is written. A control character without an escape of its own stands as its
unit. -/
def glyph (c : Char) : Glyph :=
  match c with
  | '"' | '\\' | '\x08' | '\x0c' | '\n' | '\r' | '\t' => .plain c
  | c => if c.toNat < 0x20 then .unit c.toNat else .plain c

theorem Written.unit?_of_lt {code : Nat} (h : code < 0x20) :
    unit? '0' '0' (Nat.digitChar (code / 16)) (Nat.digitChar (code % 16)) = some code := by
  revert code
  decide

theorem Written.glyphs?_cons {c : Char} (printed : 0x20 ≤ c.toNat) (quote : c ≠ '"')
    (backslash : c ≠ '\\') (t : Text) :
    glyphs? (c :: t) = (glyphs? t).map fun (glyphs, rest) => (.plain c :: glyphs, rest) := by
  rw [glyphs?.eq_def]
  split
  · simp_all
  · simp_all
  · simp_all
  · simp_all
  next eq =>
    obtain ⟨rfl, rfl⟩ := List.cons.inj eq
    rw [if_neg (by simp [backslash]; omega)]
    cases glyphs? t <;> rfl

theorem Written.glyphs?_short {e c : Char} (short : simpleEscape? e = some c) (t : Text) :
    glyphs? ('\\' :: e :: t) =
      (glyphs? t).map fun (glyphs, rest) => (.plain c :: glyphs, rest) := by
  have notUnit : e ≠ 'u' := by
    rintro rfl
    cases short
  rw [glyphs?.eq_def]
  split
  · simp_all
  · simp_all
  · simp_all
  next eq =>
    obtain ⟨rfl, rfl⟩ : e = _ ∧ t = _ := by simpa using eq
    rw [short]
    cases glyphs? t <;> rfl
  next other eq =>
    obtain ⟨rfl, rfl⟩ := List.cons.inj eq
    exact (other e t rfl rfl).elim

theorem Written.glyphs?_escape (c : Char) (t : Text) :
    glyphs? (escape c ++ t) =
      (glyphs? t).map fun (glyphs, rest) => (glyph c :: glyphs, rest) := by
  rw [escape.eq_def]
  split
  case h_8 quote backslash _ _ _ _ _ =>
    have glyph_eq : glyph c = if c.toNat < 0x20 then .unit c.toNat else .plain c := by
      rw [glyph.eq_def]
      split <;> simp_all
    rw [glyph_eq]
    split
    next low =>
      simp only [List.cons_append, List.nil_append, glyphs?, unit?_of_lt low]
      cases glyphs? t <;> rfl
    next printed => exact glyphs?_cons (Nat.le_of_not_lt printed) quote backslash t
  all_goals exact glyphs?_short rfl t

theorem Written.glyphs?_quoted (t rest : Text) :
    glyphs? (t.flatMap escape ++ '"' :: rest) = some (t.map glyph, rest) := by
  induction t with
  | nil => rfl
  | cons c t ih =>
    rw [List.flatMap_cons, List.append_assoc, glyphs?_escape, ih]
    rfl

theorem Glyph.text?_glyph (c : Char) (rest : List Glyph) :
    text? (glyph c :: rest) = (text? rest).map (c :: ·) := by
  have unit (low : c.toNat < 0x20) : text? (.unit c.toNat :: rest) = (text? rest).map (c :: ·) := by
    have high : ¬(0xd800 ≤ c.toNat ∧ c.toNat < 0xdc00) := by omega
    have surrogate : ¬(0xdc00 ≤ c.toNat ∧ c.toNat < 0xe000) := by omega
    have either : ¬(0xd800 ≤ c.toNat ∧ c.toNat < 0xe000) := by omega
    rcases rest with _ | ⟨_ | next, rest⟩
    · simp only [text?, if_neg either, Char.ofNat_toNat]
    · simp only [text?, if_neg either, Char.ofNat_toNat]
    · simp only [text?, if_neg high, if_neg surrogate, Char.ofNat_toNat]
  rw [glyph.eq_def]
  split
  case h_8 =>
    split
    next low => exact unit low
    next => rfl
  all_goals rfl

theorem Glyph.text?_map_glyph (t : Text) : text? (t.map glyph) = some t := by
  induction t with
  | nil => rfl
  | cons c t ih => rw [List.map_cons, text?_glyph, ih, Option.map_some]

end Pagecraft.Json
