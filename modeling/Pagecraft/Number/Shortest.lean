import Pagecraft.Number.Binary64

/-! The shortest decimal that reads back as a given double: the fewest digits, and of those
the nearest to the value, an exact tie going to the even digit. -/
namespace Pagecraft.Shortest

structure Decimal where
  digits : Text
  exponent : Int
deriving DecidableEq, Repr

def reaches (num den : Nat) : Int → Bool
  | .ofNat k => den * tenTo k ≤ num
  | .negSucc k => den ≤ num * tenTo (k + 1)

def decade (num den : Nat) : Int :=
  let guess := ((Text.ofNat num).length : Int) - (Text.ofNat den).length
  if reaches num den guess then guess else guess - 1

def scale (num den : Nat) : Int → Nat × Nat
  | .ofNat k => (num * tenTo k, den)
  | .negSucc k => (num, den * tenTo (k + 1))

/-- The `count`-digit neighbour of a magnitude that reads back as it, if there is one. -/
def candidate? (magnitude : Nat) (top : Int) (count : Nat) : Option Nat :=
  let step : Int := top - (count - 1 : Nat)
  let (num, den) := scale (Binary64.units magnitude) (twoTo 1074) (-step)
  let below := num / den
  let readsBack (digits : Nat) : Bool :=
    let (n, d) := scale digits 1 step
    Binary64.nearest n d == magnitude
  match readsBack below, readsBack (below + 1) with
  | true, true => some (Binary64.roundHalfEven num den)
  | true, false => some below
  | false, true => some (below + 1)
  | false, false => none

def trimmed (number : Nat) (exponent : Int) : Decimal :=
  let digits := Text.ofNat number
  ⟨(digits.reverse.dropWhile (· == '0')).reverse, exponent + (digits.length - 1 : Nat)⟩

/-- The shortest decimal of a nonzero magnitude. Seventeen digits always suffice. -/
def ofMagnitude (magnitude : Nat) : Decimal :=
  let top := decade (Binary64.units magnitude) (twoTo 1074)
  let found := (List.range 17).findSome? fun i =>
    (candidate? magnitude top (i + 1)).map fun digits => trimmed digits (top - i)
  found.getD (trimmed 0 top)

end Pagecraft.Shortest
