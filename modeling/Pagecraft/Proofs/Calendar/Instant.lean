import Pagecraft.Calendar.Instant
import Pagecraft.Proofs.Text.Decimal

/-! Instants are read from what was written, to the nanosecond: each number has the width that the
reader takes, and a fraction has as many digits as its nanoseconds need. -/
namespace Pagecraft.Instant

/-- An instant of a year with four digits. Only the last second of a minute can be a leap second,
which is what nanoseconds past their thousand million stand for. -/
structure IsCommon (instant : Instant) : Prop where
  date : instant.date.isValid
  year : 0 ≤ instant.date.year ∧ instant.date.year ≤ 9999
  second : instant.second < 86400
  nano : instant.nano < 2000000000
  leap : 1000000000 ≤ instant.nano → instant.second % 60 = 59

/-! Numbers and the signs between them -/

theorem trimStart_cons {c : Char} (h : ¬isBlank c) (t : Text) : Text.trimStart (c :: t) = c :: t :=
  List.dropWhile_cons_of_neg h

theorem trimStart_ofNatPadded (width n : Nat) (rest : Text) :
    Text.trimStart (Text.ofNatPadded width n ++ rest) = Text.ofNatPadded width n ++ rest := by
  obtain ⟨c, more, digits, digit⟩ := Text.exists_cons_ofNatPadded width n
  rw [digits]
  exact trimStart_cons (Text.not_isBlank_of_isDigit digit) _

theorem number?_ofNatPadded {width n : Nat} (pos : 0 < width) (fits : n < tenTo width)
    (rest : Text) : number? width (Text.ofNatPadded width n ++ rest) = some (n, rest) := by
  have length := Text.length_ofNatPadded pos fits
  have digits : (Text.ofNatPadded width n).takeWhile Char.isDigit = Text.ofNatPadded width n :=
    List.takeWhile_eq_self_iff.mpr fun _ => Text.isDigit_of_mem_ofNatPadded
  rw [number?, trimStart_ofNatPadded]
  simp only [List.take_append_of_le_length (Nat.le_of_eq length.symm),
    List.take_of_length_le (Nat.le_of_eq length), digits, Text.toNat?_ofNatPadded,
    List.drop_left, Option.map_some]

theorem after?_cons {separator : Char} (h : ¬isBlank separator) (t : Text) :
    after? separator (separator :: t) = some t := by
  rw [after?, trimStart_cons h]
  exact Text.dropMark?_eq_some_iff.mpr rfl

/-! Dates -/

theorem year?_of_isDigit {c : Char} (digit : c.isDigit) (t : Text) :
    year? (c :: t) = (number? 4 (c :: t)).map fun (n, rest) => (n, rest) := by
  rw [year?, trimStart_cons (Text.not_isBlank_of_isDigit digit)]
  split
  next eq =>
    rw [(List.cons.inj eq).1] at digit
    cases digit
  next eq =>
    rw [(List.cons.inj eq).1] at digit
    cases digit
  next => rfl

theorem year?_yearText {year : Int} (common : 0 ≤ year ∧ year ≤ 9999) (rest : Text) :
    year? (Date.yearText year ++ rest) = some (year, rest) := by
  have text : Date.yearText year = Text.ofNatPadded 4 year.toNat := if_pos common
  have fits : year.toNat < tenTo 4 := by
    have : tenTo 4 = 10000 := rfl
    omega
  have read : number? 4 (Text.ofNatPadded 4 year.toNat ++ rest) = some (year.toNat, rest) :=
    number?_ofNatPadded (by decide) fits rest
  obtain ⟨c, more, digits, digit⟩ := Text.exists_cons_ofNatPadded 4 year.toNat
  rw [text, digits, List.cons_append, year?_of_isDigit digit, ← List.cons_append, ← digits, read]
  simp only [Option.map_some, Int.toNat_of_nonneg common.1]

theorem daysIn_le (year : Int) (month : Nat) : Date.daysIn year month ≤ 31 := by
  unfold Date.daysIn
  split
  · split <;> decide
  all_goals decide

theorem date?_text {date : Date} (valid : date.isValid)
    (common : 0 ≤ date.year ∧ date.year ≤ 9999) (rest : Text) :
    date? (date.text ++ rest) = some (date, rest) := by
  have fields := valid
  simp only [Date.isValid, Bool.and_eq_true, decide_eq_true_eq] at fields
  obtain ⟨⟨⟨-, month⟩, -⟩, day⟩ := fields
  have hundred : tenTo 2 = 100 := rfl
  have month : date.month < tenTo 2 := by omega
  have day : date.day < tenTo 2 := by
    have := daysIn_le date.year date.month
    omega
  have shape : date.text ++ rest = Date.yearText date.year ++ '-' ::
      (Text.ofNatPadded 2 date.month ++ '-' :: (Text.ofNatPadded 2 date.day ++ rest)) := by
    simp [Date.text]
  have hyphen : ∀ t, after? '-' ('-' :: t) = some t := after?_cons (by decide)
  rw [shape, date?, year?_yearText common]
  simp only [Option.bind_eq_bind, Option.bind_some, hyphen,
    number?_ofNatPadded (by decide) month, number?_ofNatPadded (by decide) day, valid, if_true]

/-! Times -/

theorem fraction?_point {width n : Nat} (pos : 0 < width) (fits : n < tenTo width)
    (most : width ≤ 9) {rest : Text} (ends : Text.noDigit rest) :
    fraction? ('.' :: Text.ofNatPadded width n ++ rest) = some (n * tenTo (9 - width), rest) := by
  have length := Text.length_ofNatPadded pos fits
  rw [List.cons_append, fraction?]
  simp only [Text.takeWhile_isDigit_append (fun _ => Text.isDigit_of_mem_ofNatPadded) ends,
    Text.dropWhile_isDigit_append (fun _ => Text.isDigit_of_mem_ofNatPadded) ends,
    List.take_of_length_le (Nat.le_trans (Nat.le_of_eq length) most), length,
    Text.toNat?_ofNatPadded, Option.map_some]

theorem fraction?_fractionText {nano : Nat} (h : nano < 1000000000) {rest : Text}
    (ends : Text.noDigit rest) (point : ∀ t, rest ≠ '.' :: t) :
    fraction? (fractionText nano ++ rest) = some (nano, rest) := by
  rw [fractionText]
  split
  next zero =>
    rw [zero, List.nil_append, fraction?.eq_def]
    split
    next t => exact absurd rfl (point t)
    next => rfl
  split
  next millis =>
    have fits : nano / 1000000 < tenTo 3 := Nat.div_lt_of_lt_mul h
    rw [fraction?_point (by decide) fits (by decide) ends]
    have : nano / 1000000 * tenTo (9 - 3) = nano :=
      Nat.div_mul_cancel (Nat.dvd_of_mod_eq_zero millis)
    rw [this]
  split
  next micros =>
    have fits : nano / 1000 < tenTo 6 := Nat.div_lt_of_lt_mul h
    rw [fraction?_point (by decide) fits (by decide) ends]
    have : nano / 1000 * tenTo (9 - 6) = nano :=
      Nat.div_mul_cancel (Nat.dvd_of_mod_eq_zero micros)
    rw [this]
  next =>
    rw [fraction?_point (by decide) h (by decide) ends]
    have : nano * tenTo (9 - 9) = nano := Nat.mul_one nano
    rw [this]

theorem time?_text {second nano : Nat} (inDay : second < 86400) (small : nano < 2000000000)
    (leap : 1000000000 ≤ nano → second % 60 = 59) {rest : Text} (ends : Text.noDigit rest)
    (point : ∀ t, rest ≠ '.' :: t) :
    time? (Text.ofNatPadded 2 (second / 3600) ++ ':' :: (Text.ofNatPadded 2 (second / 60 % 60) ++
      ':' :: (Text.ofNatPadded 2 (second % 60 + nano / 1000000000) ++
        (fractionText (nano % 1000000000) ++ rest)))) = some (second, nano, rest) := by
  have colon : ∀ t, after? ':' (':' :: t) = some t := after?_cons (by decide)
  have hundred : tenTo 2 = 100 := rfl
  have hour : second / 3600 < tenTo 2 := by omega
  have minute : second / 60 % 60 < tenTo 2 := by omega
  have shown : second % 60 + nano / 1000000000 < tenTo 2 := by omega
  have part : nano % 1000000000 < 1000000000 := Nat.mod_lt _ (by decide)
  rw [time?, number?_ofNatPadded (by decide) hour]
  simp only [Option.bind_eq_bind, Option.bind_some, colon,
    number?_ofNatPadded (by decide) minute, number?_ofNatPadded (by decide) shown,
    fraction?_fractionText part ends point]
  rw [if_pos (by omega)]
  by_cases late : 1000000000 ≤ nano
  · have sixty : second % 60 + nano / 1000000000 = 60 := by have := leap late; omega
    rw [if_pos sixty]
    simp
    omega
  · have below : second % 60 + nano / 1000000000 ≠ 60 := by omega
    rw [if_neg below]
    simp
    omega

theorem ofLocal?_utc {date : Date} (valid : date.isValid) {second : Nat} (inDay : second < 86400)
    (nano : Nat) : ofLocal? date second nano 0 = some ⟨date, second, nano⟩ := by
  have early : ¬((second : Int) - 0 < 0) := by omega
  have late : ¬(86400 ≤ (second : Int) - 0) := by omega
  have same : (((second : Int) - 0) % 86400).toNat = second := by omega
  simp only [ofLocal?, if_neg early, if_neg late, same, valid, if_true]

theorem ofText?_text {instant : Instant} (common : instant.IsCommon) :
    ofText? instant.text = some instant := by
  have shape : instant.text = instant.date.text ++ 'T' ::
      (Text.ofNatPadded 2 (instant.second / 3600) ++ ':' ::
        (Text.ofNatPadded 2 (instant.second / 60 % 60) ++ ':' ::
          (Text.ofNatPadded 2 (instant.second % 60 + instant.nano / 1000000000) ++
            (fractionText (instant.nano % 1000000000) ++ ['Z'])))) := by
    simp [text]
  have ends : Text.noDigit ['Z'] := rfl
  have zone : offset? (Text.trimStart ['Z']) = some (0, []) := by decide
  rw [shape, ofText?, date?_text common.date common.year]
  simp only [Option.bind_eq_bind, Option.bind_some,
    time?_text common.second common.nano common.leap ends (by simp), zone,
    ofLocal?_utc common.date common.second]
  rfl

end Pagecraft.Instant
