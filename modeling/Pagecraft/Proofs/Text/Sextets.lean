import Mathlib.Algebra.Group.Nat.Defs
import Pagecraft.Proofs.Text.Base64

/-! The form of base64 texts in terms of bits. The bits of the bytes are taken in groups of six, of
which the last is filled up with zeros; each group is a symbol of the alphabet, and the row of
symbols is filled up to a multiple of four. Main statement: this is what encoding writes. -/
namespace Pagecraft.Base64

def alphabet : Text := "ABCDEFGHIJKLMNOPQRSTUVWXYZabcdefghijklmnopqrstuvwxyz0123456789+/".toList

def lowBits (n : Nat) : Nat → List Bool
  | 0 => []
  | width + 1 => n.testBit width :: lowBits n width

def bits (bytes : Bytes) : List Bool := bytes.flatMap fun byte => lowBits byte.toNat 8

def groups : List Bool → List (List Bool)
  | a :: b :: c :: d :: e :: f :: rest => [a, b, c, d, e, f] :: groups rest
  | [] => []
  | few => [few ++ List.replicate (6 - few.length) false]

def number : List Bool → Nat
  | [] => 0
  | bit :: rest => bit.toNat * 2 ^ rest.length + number rest

/-- A symbol for each group of six bits, and padding signs up to a multiple of four. -/
def standard (bytes : Bytes) : Text :=
  let symbols := (groups (bits bytes)).filterMap fun group => alphabet[number group]?
  symbols ++ List.replicate ((4 - symbols.length % 4) % 4) '='

theorem getElem?_alphabet : ∀ value < 64, alphabet[value]? = some (symbol value) := by decide

@[simp] theorem length_lowBits (n width : Nat) : (lowBits n width).length = width := by
  induction width with
  | zero => rfl
  | succ width ih => rw [lowBits, List.length_cons, ih]

theorem lowBits_add (n high low : Nat) :
    lowBits n (high + low) = lowBits (n / 2 ^ low) high ++ lowBits n low := by
  induction high with
  | zero => rw [Nat.zero_add]; rfl
  | succ high ih =>
    rw [Nat.succ_add, lowBits, ih, lowBits, Nat.testBit_div_two_pow]
    rfl

theorem number_append (front back : List Bool) :
    number (front ++ back) = number front * 2 ^ back.length + number back := by
  induction front with
  | nil => simp [number]
  | cons bit front ih =>
    rw [List.cons_append, number, ih, List.length_append, Nat.pow_add, number, Nat.add_mul,
      Nat.mul_assoc, Nat.add_assoc]

theorem number_lowBits (n width : Nat) : number (lowBits n width) = n % 2 ^ width := by
  induction width with
  | zero => simp [lowBits, number, Nat.mod_one]
  | succ width ih =>
    rw [lowBits, number, ih, length_lowBits, Nat.toNat_testBit, Nat.mod_pow_succ, Nat.mul_comm,
      Nat.add_comm]

theorem map_number_groups (bytes : Bytes) : (groups (bits bytes)).map number = sextets bytes := by
  have after6 (n : Nat) : lowBits n 8 = lowBits (n / 4) 6 ++ lowBits n 2 := lowBits_add n 6 2
  have after4 (n : Nat) : lowBits n 8 = lowBits (n / 16) 4 ++ lowBits n 4 := lowBits_add n 4 4
  have after2 (n : Nat) : lowBits n 8 = lowBits (n / 64) 2 ++ lowBits n 6 := lowBits_add n 2 6
  fun_induction sextets bytes with
  | case1 a b c rest ih =>
    have := a.toNat_lt
    have := b.toNat_lt
    have := c.toNat_lt
    have cut : groups (bits (a :: b :: c :: rest)) =
        lowBits (a.toNat / 4) 6 :: (lowBits a.toNat 2 ++ lowBits (b.toNat / 16) 4) ::
          (lowBits b.toNat 4 ++ lowBits (c.toNat / 64) 2) :: lowBits c.toNat 6 ::
            groups (bits rest) := by
      simp only [bits, List.flatMap_cons, after6 a.toNat, after4 b.toNat, after2 c.toNat]
      rfl
    simp only [cut, List.map_cons, ih, number_append, number_lowBits, length_lowBits,
      List.cons.injEq, and_true]
    omega
  | case2 a b =>
    have := a.toNat_lt
    have := b.toNat_lt
    have cut : groups (bits [a, b]) =
        [lowBits (a.toNat / 4) 6, lowBits a.toNat 2 ++ lowBits (b.toNat / 16) 4,
          lowBits b.toNat 4 ++ [false, false]] := by
      simp only [bits, List.flatMap_cons, after6 a.toNat, after4 b.toNat]
      rfl
    have zeros : number [false, false] = 0 := rfl
    simp only [cut, List.map_cons, List.map_nil, number_append, number_lowBits, length_lowBits,
      zeros, List.length_cons, List.length_nil, List.cons.injEq, and_true]
    omega
  | case3 a =>
    have := a.toNat_lt
    have cut : groups (bits [a]) =
        [lowBits (a.toNat / 4) 6, lowBits a.toNat 2 ++ [false, false, false, false]] := by
      simp only [bits, List.flatMap_cons, after6 a.toNat]
      rfl
    have zeros : number [false, false, false, false] = 0 := rfl
    simp only [cut, List.map_cons, List.map_nil, number_append, number_lowBits, zeros,
      List.length_cons, List.length_nil, List.cons.injEq, and_true]
    omega
  | case4 => rfl

theorem encode_eq_standard (bytes : Bytes) : encode bytes = standard bytes := by
  have symbols : (groups (bits bytes)).filterMap (fun group => alphabet[number group]?) =
      (sextets bytes).map symbol := by
    rw [← map_number_groups, List.map_map, ← List.filterMap_eq_map]
    refine List.filterMap_congr fun group mem => getElem?_alphabet _ ?_
    apply @sextet_lt bytes
    rw [← map_number_groups]
    exact List.mem_map_of_mem mem
  obtain ⟨few, quads, _⟩ := padding_spec bytes
  have fill : (4 - (sextets bytes).length % 4) % 4 = padding bytes := by omega
  rw [encode_eq, standard, symbols, List.length_map, fill]

end Pagecraft.Base64
