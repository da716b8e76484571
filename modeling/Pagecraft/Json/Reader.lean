import Pagecraft.Json.Written

/-! From written JSON to values: numbers take their value, escapes become characters, and
containers may be nested 127 deep. -/
namespace Pagecraft.Json

/-- The characters of written glyphs. A unit from the upper half of a surrogate pair has to be
followed by one from the lower half, which is allowed nowhere else. -/
def Glyph.text? : List Glyph → Option Text
  | [] => some []
  | .plain c :: rest => (text? rest).map (c :: ·)
  | .unit high :: .unit low :: rest =>
    if 0xd800 ≤ high ∧ high < 0xdc00 then
      if 0xdc00 ≤ low ∧ low < 0xe000 then
        (text? rest).map (Char.ofNat (0x10000 + (high - 0xd800) * 0x400 + (low - 0xdc00)) :: ·)
      else none
    else if 0xdc00 ≤ high ∧ high < 0xe000 then none
    else (text? (.unit low :: rest)).map (Char.ofNat high :: ·)
  | .unit code :: rest =>
    if 0xd800 ≤ code ∧ code < 0xe000 then none
    else (text? rest).map (Char.ofNat code :: ·)

namespace Numeral

/-- Appends a digit to a significand that stays below `2 ^ 64`. -/
def push? (significand digit : Nat) : Option Nat :=
  let next := significand * 10 + digit
  if next < UInt64.size then some next else none

/-- The significand of a whole part and the number of digits that no longer fit. -/
def wholeSignificand : Nat → List Nat → Nat × Nat
  | significand, [] => (significand, 0)
  | significand, d :: ds =>
    match push? significand d with
    | some next => wholeSignificand next ds
    | none => (significand, ds.length + 1)

def fractionSignificand : Nat → List Nat → Nat × Nat
  | significand, [] => (significand, 0)
  | significand, d :: ds =>
    match push? significand d with
    | some next =>
      let (result, used) := fractionSignificand next ds
      (result, used + 1)
    | none => (significand, 0)

def ofDigits (ds : List Nat) : Nat := ds.foldl (fun n d => 10 * n + d) 0

/-- The value of a numeral. Without fraction and exponent it is an integer if that fits 64 bits;
all else, and `-0`, is a double, which has to be finite. -/
def value? (n : Numeral) : Option Number :=
  let (significand, dropped) := wholeSignificand 0 n.whole
  let float (significand : Nat) (exponent : Int) : Option Number :=
    (Binary64.ofDecimal? significand exponent).map fun magnitude => .float ⟨n.negative, magnitude⟩
  match n.fraction, n.exponent with
  | none, none =>
    if dropped > 0 then float significand dropped
    else if !n.negative then some (.integer significand)
    else if significand = 0 ∨ significand > UInt64.size / 2 then float significand 0
    else some (.integer (-significand))
  | fraction, exponent =>
    let (significand, used) := fractionSignificand significand (fraction.getD [])
    let power : Int := match exponent with
      | none => 0
      | some (true, ds) => -ofDigits ds
      | some (false, ds) => ofDigits ds
    float significand (dropped - used + power)

end Numeral

mutual

def ofWritten? (depth : Nat) : Written → Option Json
  | .null => some .null
  | .bool value => some (.bool value)
  | .number numeral => numeral.value?.map .number
  | .string glyphs => (Glyph.text? glyphs).map .string
  | .array items =>
    if depth = 0 then none else (ofWrittenItems? (depth - 1) items).map .array
  | .object members =>
    if depth = 0 then none else (ofWrittenMembers? (depth - 1) members).map .object

def ofWrittenItems? (depth : Nat) : List Written → Option (List Json)
  | [] => some []
  | item :: items => do
    return (← ofWritten? depth item) :: (← ofWrittenItems? depth items)

def ofWrittenMembers? (depth : Nat) : List (List Glyph × Written) → Option (List (Text × Json))
  | [] => some []
  | (name, value) :: members => do
    let name ← Glyph.text? name
    return (name, ← ofWritten? depth value) :: (← ofWrittenMembers? depth members)

end

def maxDepth : Nat := 127

def ofText? (t : Text) : Option Json := (Written.ofText? t).bind (ofWritten? maxDepth)

end Pagecraft.Json
