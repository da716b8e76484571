import Pagecraft.Text.Basic

/-! Two lowercase hexadecimal digits per byte. -/
namespace Pagecraft.Hex

def digit (n : Nat) : Char := Nat.digitChar n

def ofByte (b : UInt8) : Text := [digit (b.toNat / 16), digit (b.toNat % 16)]

def encode (bytes : Bytes) : Text := bytes.flatMap ofByte

def value? (c : Char) : Option Nat :=
  if c.isDigit then some (c.toNat - '0'.toNat)
  else if 'a' ≤ c && c ≤ 'f' then some (c.toNat - 'a'.toNat + 10)
  else if 'A' ≤ c && c ≤ 'F' then some (c.toNat - 'A'.toNat + 10)
  else none

/-- The number that digits stand for; any other character counts as a zero. -/
def number (t : Text) : Nat := t.foldl (fun n c => 16 * n + (value? c).getD 0) 0

def decode? : Text → Option Bytes
  | [] => some []
  | high :: low :: rest => do
    let h ← value? high
    let l ← value? low
    return UInt8.ofNat (16 * h + l) :: (← decode? rest)
  | [_] => none

end Pagecraft.Hex
