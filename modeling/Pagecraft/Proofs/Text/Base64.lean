import Mathlib.Data.List.Basic
import Mathlib.Data.List.TakeWhile
import Pagecraft.Proofs.Text.Utf8
import Pagecraft.Text.Base64

/-! Encoding and decoding. Encoded bytes are a row of values below 64 with padding behind it, and
decoding joins the values again. A text is decoded only if it is what its bytes are encoded to, so
a text with any other character decodes to nothing. -/
namespace Pagecraft.Base64

def sextets : Bytes → List Nat
  | a :: b :: c :: rest =>
    a.toNat / 4 :: (a.toNat % 4 * 16 + b.toNat / 16) :: (b.toNat % 16 * 4 + c.toNat / 64) ::
      c.toNat % 64 :: sextets rest
  | [a, b] => [a.toNat / 4, a.toNat % 4 * 16 + b.toNat / 16, b.toNat % 16 * 4]
  | [a] => [a.toNat / 4, a.toNat % 4 * 16]
  | [] => []

def padding : Bytes → Nat
  | _ :: _ :: _ :: rest => padding rest
  | [_, _] => 1
  | [_] => 2
  | [] => 0

def code (value : Nat) : UInt8 := UInt8.ofNat (symbol value).toNat

theorem encode_eq (bytes : Bytes) :
    encode bytes = (sextets bytes).map symbol ++ List.replicate (padding bytes) '=' := by
  fun_induction sextets bytes with
  | case1 a b c rest ih => simp [encode, padding, ih]
  | case2 | case3 | case4 => rfl

theorem sextet_lt {bytes : Bytes} : ∀ value ∈ sextets bytes, value < 64 := by
  fun_induction sextets bytes with
  | case1 a b c rest ih =>
    have := a.toNat_lt
    have := b.toNat_lt
    have := c.toNat_lt
    simp only [List.forall_mem_cons]
    exact ⟨by omega, by omega, by omega, by omega, ih⟩
  | case2 a b =>
    have := a.toNat_lt
    have := b.toNat_lt
    simp only [List.forall_mem_cons]
    exact ⟨by omega, by omega, by omega, by simp⟩
  | case3 a =>
    have := a.toNat_lt
    simp only [List.forall_mem_cons]
    exact ⟨by omega, by omega, by simp⟩
  | case4 => simp

theorem join_sextets (bytes : Bytes) : join (sextets bytes) = bytes := by
  have whole {n : Nat} (byte : UInt8) (h : n = byte.toNat) : UInt8.ofNat n = byte := by
    rw [h, UInt8.ofNat_toNat]
  fun_induction sextets bytes with
  | case1 a b c rest ih =>
    have := b.toNat_lt
    have := c.toNat_lt
    rw [join, ih, whole a (by omega), whole b (by omega),
      whole c (by omega)]
  | case2 a b =>
    have := b.toNat_lt
    rw [join, whole a (by omega), whole b (by omega)]
  | case3 a => rw [join, whole a (by omega)]
  | case4 => rfl

theorem padding_spec (bytes : Bytes) :
    padding bytes ≤ 2 ∧ ((sextets bytes).length + padding bytes) % 4 = 0 ∧
      unusedBits (sextets bytes).length ((sextets bytes).getLastD 0) = 0 := by
  fun_induction sextets bytes with
  | case1 a b c rest ih =>
    obtain ⟨few, quads, zero⟩ := ih
    refine ⟨few, ?_, ?_⟩
    · simp only [List.length_cons, padding]
      omega
    · simp only [List.length_cons, unusedBits, Nat.add_mod_right, Nat.add_assoc] at zero ⊢
      cases more : sextets rest with
      | nil => simp
      | cons value values => simpa [more] using zero
  | case2 a b =>
    simp [padding, unusedBits]
  | case3 a =>
    simp [padding, unusedBits]
  | case4 => decide

theorem utf8_symbol : ∀ value < 64, String.utf8EncodeChar (symbol value) = [code value] := by
  decide

theorem value?_code : ∀ value < 64, value? (code value) = some value := by decide

theorem utf8_map_symbol {values : List Nat} (small : ∀ value ∈ values, value < 64) :
    Text.utf8 (values.map symbol) = values.map code := by
  rw [Text.utf8, List.flatMap_map]
  calc values.flatMap (fun value => String.utf8EncodeChar (symbol value))
      = values.flatMap (fun value => [code value]) :=
        List.flatMap_congr fun value mem => utf8_symbol value (small value mem)
    _ = values.map code := List.map_eq_flatMap.symm

theorem isSymbol_code {value : Nat} (h : value < 64) : isSymbol (code value) := by
  rw [isSymbol, value?_code value h]
  rfl

theorem filterMap_value?_code {values : List Nat} (small : ∀ value ∈ values, value < 64) :
    (values.map code).filterMap value? = values := by
  rw [List.filterMap_map]
  calc values.filterMap (value? ∘ code)
      = values.filterMap some :=
        List.filterMap_congr fun value mem => value?_code value (small value mem)
    _ = values := List.filterMap_some

theorem decodeBytes_code {values : List Nat} {count : Nat} (small : ∀ value ∈ values, value < 64)
    (few : count ≤ 2) (quads : (values.length + count) % 4 = 0)
    (zero : unusedBits values.length (values.getLastD 0) = 0) :
    decodeBytes (values.map code ++ List.replicate count pad) = .ok (join values) := by
  have symbols : ∀ byte ∈ values.map code, isSymbol byte := by
    intro byte mem
    obtain ⟨value, among, rfl⟩ := List.mem_map.mp mem
    exact isSymbol_code (small value among)
  have padded : ∀ n, (List.replicate n pad).takeWhile isSymbol = [] ∧
      (List.replicate n pad).dropWhile isSymbol = List.replicate n pad := by
    intro n
    cases n with
    | zero => exact ⟨rfl, rfl⟩
    | succ n => exact ⟨rfl, rfl⟩
  have front : (values.map code ++ List.replicate count pad).takeWhile isSymbol =
      values.map code := by
    rw [List.takeWhile_append_of_pos symbols, (padded count).1, List.append_nil]
  have back : (values.map code ++ List.replicate count pad).dropWhile isSymbol =
      List.replicate count pad := by
    rw [List.dropWhile_append_of_pos symbols, (padded count).2]
  have length : (values.map code ++ List.replicate count pad).length = values.length + count := by
    simp
  unfold decodeBytes
  rw [front, back]
  simp only [length, quads, filterMap_value?_code small, List.length_map, zero]
  have quads' : ¬(values.length + count) % 4 = 1 := by omega
  cases count with
  | zero => simp
  | succ count =>
    have two : 2 ≤ values.length % 4 := by omega
    have room : count + 1 ≤ 4 - values.length % 4 := by omega
    simp [List.replicate_succ, two, room]

theorem utf8_encode (bytes : Bytes) :
    Text.utf8 (encode bytes) =
      (sextets bytes).map code ++ List.replicate (padding bytes) pad := by
  have pads : ∀ count, Text.utf8 (List.replicate count '=') = List.replicate count pad := by
    intro count
    induction count with
    | zero => rfl
    | succ count ih => exact congrArg (pad :: ·) ih
  rw [encode_eq, Text.utf8, List.flatMap_append, ← Text.utf8, ← Text.utf8,
    utf8_map_symbol sextet_lt, pads]

@[simp] theorem decode_encode (bytes : Bytes) : decode (encode bytes) = .ok bytes := by
  obtain ⟨few, quads, zero⟩ := padding_spec bytes
  rw [decode, utf8_encode, decodeBytes_code sextet_lt few quads zero, join_sextets]

theorem code_of_value?_ofNat : ∀ n < 256, ∀ value ∈ value? (UInt8.ofNat n),
    value < 64 ∧ code value = UInt8.ofNat n := by
  decide +kernel

theorem exists_values {symbols : Bytes} (h : ∀ byte ∈ symbols, isSymbol byte) :
    ∃ values : List Nat, (∀ value ∈ values, value < 64) ∧ symbols = values.map code := by
  induction symbols with
  | nil => exact ⟨[], by simp, rfl⟩
  | cons byte symbols ih =>
    obtain ⟨symbol, others⟩ := List.forall_mem_cons.mp h
    obtain ⟨value, means⟩ := Option.isSome_iff_exists.mp symbol
    obtain ⟨values, small, rfl⟩ := ih others
    have coded := code_of_value?_ofNat byte.toNat byte.toNat_lt value
    rw [UInt8.ofNat_toNat] at coded
    obtain ⟨low, rfl⟩ := coded means
    exact ⟨value :: values, List.forall_mem_cons.mpr ⟨low, small⟩, rfl⟩

theorem decodeBytes_eq_ok {input bytes : Bytes} (h : decodeBytes input = .ok bytes) :
    ∃ (values : List Nat) (count : Nat), (∀ value ∈ values, value < 64) ∧
      input = values.map code ++ List.replicate count pad ∧ count ≤ 2 ∧
      (values.length + count) % 4 = 0 ∧ unusedBits values.length (values.getLastD 0) = 0 ∧
      bytes = join values := by
  obtain ⟨values, small, front⟩ := @exists_values (input.takeWhile isSymbol)
    fun byte mem => List.mem_takeWhile_imp mem
  have whole := List.takeWhile_append_dropWhile (p := isSymbol) (l := input)
  have length := congrArg List.length whole
  rw [front] at whole length
  rw [List.length_append, List.length_map] at length
  unfold decodeBytes at h
  rw [front] at h
  simp only [filterMap_value?_code small, List.length_map] at h
  split at h
  · -- one symbol more than a multiple of four
    split at h
    · split at h <;> cases h
    · cases h
  · split at h
    case _ rest =>
      rw [rest] at whole length
      split at h
      · cases h
      split at h
      · cases h
      refine ⟨values, 0, small, ?_, by omega, ?_, by omega, (Except.ok.inj h).symm⟩
      · rw [List.replicate_zero, whole]
      · rw [List.length_nil] at length
        omega
    case _ first more rest =>
      split at h
      case isTrue padded =>
        obtain ⟨_, two, pads, room⟩ := padded
        rw [rest] at whole length pads room
        have fill : first :: more = List.replicate (first :: more).length pad :=
          List.eq_replicate_of_mem (by simpa using pads)
        split at h
        · cases h
        split at h
        · cases h
        refine ⟨values, (first :: more).length, small, ?_, by omega, by omega, by omega,
          (Except.ok.inj h).symm⟩
        rw [← fill, whole]
      case isFalse => cases h

theorem sextets_join {values : List Nat} (small : ∀ value ∈ values, value < 64)
    (two : values.length % 4 ≠ 1) (zero : unusedBits values.length (values.getLastD 0) = 0) :
    sextets (join values) = values := by
  fun_induction join values with
  | case1 a b c d rest ih =>
    simp only [List.forall_mem_cons] at small
    obtain ⟨_, _, _, _, small⟩ := small
    have two : rest.length % 4 ≠ 1 := by
      simp only [List.length_cons] at two
      omega
    have zero : unusedBits rest.length (rest.getLastD 0) = 0 := by
      simp only [List.length_cons, unusedBits, Nat.add_mod_right, Nat.add_assoc] at zero ⊢
      cases rest with
      | nil => simp
      | cons value values => simpa using zero
    simp only [sextets, ih small two zero, UInt8.toNat_ofNat', List.cons.injEq, and_true]
    omega
  | case2 a b c =>
    simp only [List.forall_mem_cons] at small
    have zero : c % 4 = 0 := by simpa [unusedBits] using zero
    simp only [sextets, UInt8.toNat_ofNat', List.cons.injEq, and_true]
    omega
  | case3 a b =>
    simp only [List.forall_mem_cons] at small
    have zero : b % 16 = 0 := by simpa [unusedBits] using zero
    simp only [sextets, UInt8.toNat_ofNat', List.cons.injEq, and_true]
    omega
  | case4 values noFour noThree noTwo =>
    match values with
    | [] => rfl
    | [_] => exact absurd rfl two
    | [a, b] => exact absurd rfl (noTwo a b)
    | [a, b, c] => exact absurd rfl (noThree a b c)
    | a :: b :: c :: d :: rest => exact absurd rfl (noFour a b c d rest)

theorem decode_eq_ok_iff {t : Text} {bytes : Bytes} : decode t = .ok bytes ↔ t = encode bytes := by
  constructor
  · intro h
    obtain ⟨values, count, small, written, few, quads, zero, rfl⟩ := decodeBytes_eq_ok h
    have back : sextets (join values) = values := sextets_join small (by omega) zero
    obtain ⟨few', quads', _⟩ := padding_spec (join values)
    rw [back] at quads'
    have fill : padding (join values) = count := by omega
    apply Text.utf8_injective
    rw [written, utf8_encode, back, fill]
  · rintro rfl
    exact decode_encode bytes

theorem forall_mem_encode {p : Char → Prop} (symbols : ∀ value < 64, p (symbol value)) (sign : p '=')
    (bytes : Bytes) : ∀ c ∈ encode bytes, p c := by
  intro c mem
  rw [encode_eq, List.mem_append] at mem
  rcases mem with written | filled
  · obtain ⟨value, among, rfl⟩ := List.mem_map.mp written
    exact symbols value (sextet_lt value among)
  · rw [List.eq_of_mem_replicate filled]
    exact sign

theorem decode_of_mem {t : Text} {c : Char} (mem : c ∈ t) (other : ∀ bytes, c ∉ encode bytes) :
    ∃ cause, decode t = .error cause := by
  cases result : decode t with
  | error cause => exact ⟨cause, rfl⟩
  | ok bytes =>
    rw [decode_eq_ok_iff.mp result] at mem
    exact absurd mem (other bytes)

end Pagecraft.Base64
