import Pagecraft.Number.Power
import Pagecraft.Text.Hex

/-! Numeric hosts: IPv4 addresses in their many spellings, and IPv6 addresses. -/
namespace Pagecraft

namespace Ipv4

def number? (base : Nat) (t : Text) : Option Nat :=
  t.foldlM (fun n c =>
    (Hex.value? c).bind fun v => if v < base then some (base * n + v) else none) 0

/-- A part of an address: hexadecimal after `0x`, octal after `0`, and else decimal. -/
def part? : Text → Option Nat
  | [] => none
  | '0' :: 'x' :: rest | '0' :: 'X' :: rest => number? 16 rest
  | '0' :: c :: rest => number? 8 (c :: rest)
  | t => number? 10 t

def parts (host : Text) : List Text :=
  let parts := host.pieces '.'
  if 1 < parts.length && (parts.getLastD []).isEmpty then parts.dropLast else parts

/-- Whether a host has to be an address, because its last part is a number. -/
def isMeant (host : Text) : Bool :=
  let last := (parts host).getLastD []
  !last.isEmpty && last.all Char.isDigit || (part? last).isSome

/-- The address as a number. The last part fills all the bytes that the others leave. -/
def ofHost? (host : Text) : Option Nat := do
  let numbers ← (parts host).mapM part?
  let first := numbers.dropLast
  let last ← numbers.getLast?
  if numbers.length ≤ 4 ∧ first.all (· < 256) ∧ last < twoTo (32 - 8 * first.length) then
    some (first.foldr (fun n rest => n * 0x1000000 + rest / 0x100) 0 + last)
  else none

def text (address : Nat) : Text :=
  List.intercalate ['.'] ([0x1000000, 0x10000, 0x100, 1].map fun unit =>
    Text.ofNat (address / unit % 256))

end Ipv4

namespace Ipv6

def piece? (t : Text) : Option Nat :=
  if t.isEmpty || 4 < t.length then none else Ipv4.number? 16 t

def byte? (t : Text) : Option Nat :=
  match t with
  | '0' :: _ :: _ => none
  | _ => (Text.toNat? t).filter (· < 256)

def tail? (t : Text) : Option (List Nat) := do
  match ← (t.pieces '.').mapM byte? with
  | [a, b, c, d] => some [256 * a + b, 256 * c + d]
  | _ => none

def pieces? (address : Bool) (t : Text) : Option (List Nat) :=
  if t.isEmpty then some []
  else
    let parts := t.pieces ':'
    let last := parts.getLastD []
    if address && last.contains '.' then do
      return (← parts.dropLast.mapM piece?) ++ (← tail? last)
    else parts.mapM piece?

/-- The eight pieces of an address, in which two colons once stand for one or more zeros. -/
def ofText? (t : Text) : Option (List Nat) :=
  match Text.cut? [':', ':'] t with
  | none => (pieces? true t).filter (·.length = 8)
  | some (before, after) => do
    let left ← pieces? false before
    let right ← pieces? true after
    let count := left.length + right.length
    if count < 8 then some (left ++ List.replicate (8 - count) 0 ++ right) else none

def zeros (pieces : List Nat) : Nat := (pieces.takeWhile (· = 0)).length

/-- Where the first of the longest runs of zeros starts, and its length. -/
def longestRun : Nat → List Nat → Nat × Nat
  | _, [] => (0, 0)
  | start, piece :: rest =>
    let here := zeros (piece :: rest)
    let later := longestRun (start + 1) rest
    if later.2 ≤ here then (start, here) else later

def pieceText (piece : Nat) : Text := Nat.toDigits 16 piece

/-- Small hexadecimal digits, with two colons for the longest run of two zeros or more. -/
def text (pieces : List Nat) : Text :=
  let join (pieces : List Nat) : Text := List.intercalate [':'] (pieces.map pieceText)
  let (start, length) := longestRun 0 pieces
  if length < 2 then join pieces
  else join (pieces.take start) ++ [':', ':'] ++ join (pieces.drop (start + length))

end Ipv6
end Pagecraft
