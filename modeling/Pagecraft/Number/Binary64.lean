import Pagecraft.Number.Power
import Pagecraft.Text.Basic

/-! Finite double-precision numbers, kept as a sign and magnitude bits, with exactly
rounded arithmetic on natural numbers. Nothing here uses machine floating point. -/
namespace Pagecraft

/-- A sign and 63 magnitude bits: an 11-bit exponent above a 52-bit fraction. -/
structure Binary64 where
  negative : Bool
  magnitude : Nat
deriving DecidableEq, Repr

namespace Binary64

/-- The first magnitude that is no finite number. -/
def infinity : Nat := 2047 * twoTo 52

/-- A magnitude stands for `significand * 2 ^ shift` units of `2 ^ -1074`. -/
def significand (magnitude : Nat) : Nat :=
  if magnitude < twoTo 52 then magnitude else magnitude % twoTo 52 + twoTo 52

def shift (magnitude : Nat) : Nat := magnitude / twoTo 52 - 1

def units (magnitude : Nat) : Nat := significand magnitude * twoTo (shift magnitude)

/-- The natural number nearest to `num / den`; a tie goes to the even one. -/
def roundHalfEven (num den : Nat) : Nat :=
  let floor := num / den
  let rest := 2 * (num % den)
  if rest > den || (rest == den && floor % 2 == 1) then floor + 1 else floor

/-- The magnitude nearest to `num / den`, ties to even, `infinity` if it is too large. A rounded
significand of `2 ^ 53` carries into the exponent by itself. -/
def nearest (num den : Nat) : Nat :=
  let scaled := num * twoTo 1074
  let shift := Nat.log2 (scaled / den) - 52
  min (shift * twoTo 52 + roundHalfEven scaled (den * twoTo shift)) infinity

def mul (a b : Nat) : Nat := nearest (units a * units b) (twoTo 2148)

def div (a b : Nat) : Nat := nearest (units a) (units b)

def powerOfTen (k : Nat) : Nat := nearest (tenTo k) 1

/-- The magnitude that a decimal significand and exponent denote, by one rounding of the
significand and one per multiplication or division by a power of ten up to `10 ^ 308`;
`none` if it is not finite. Below `10 ^ -616` nothing is left of 64 bits. -/
def ofDecimal? (significand : Nat) (exponent : Int) : Option Nat :=
  let start := nearest significand 1
  let result :=
    if start = 0 || exponent < -616 then 0
    else if exponent < -308 then
      div (div start (powerOfTen 308)) (powerOfTen (-(exponent + 308)).toNat)
    else if exponent < 0 then div start (powerOfTen (-exponent).toNat)
    else if exponent ≤ 308 then mul start (powerOfTen exponent.toNat)
    else infinity
  if result < infinity then some result else none

end Binary64
end Pagecraft
