import Pagecraft.Text.Utf8

/-! Base64 with the standard alphabet. Padding is required, and the bits that a last symbol
leaves over have to be zero. -/
namespace Pagecraft.Base64

def symbol (value : Nat) : Char :=
  if value < 26 then Char.ofNat (value + 65)
  else if value < 52 then Char.ofNat (value + 71)
  else if value < 62 then Char.ofNat (value - 4)
  else if value = 62 then '+' else '/'

def value? (byte : UInt8) : Option Nat :=
  let n := byte.toNat
  if 65 ≤ n ∧ n ≤ 90 then some (n - 65)
  else if 97 ≤ n ∧ n ≤ 122 then some (n - 71)
  else if 48 ≤ n ∧ n ≤ 57 then some (n + 4)
  else if n = 43 then some 62
  else if n = 47 then some 63
  else none

def pad : UInt8 := 61

def encode : Bytes → Text
  | a :: b :: c :: rest =>
    symbol (a.toNat / 4) :: symbol (a.toNat % 4 * 16 + b.toNat / 16) ::
      symbol (b.toNat % 16 * 4 + c.toNat / 64) :: symbol (c.toNat % 64) :: encode rest
  | [a, b] =>
    [symbol (a.toNat / 4), symbol (a.toNat % 4 * 16 + b.toNat / 16), symbol (b.toNat % 16 * 4), '=']
  | [a] => [symbol (a.toNat / 4), symbol (a.toNat % 4 * 16), '=', '=']
  | [] => []

inductive Error where
  | invalidByte (byte : UInt8) (offset : Nat)
  | invalidLength
  | invalidLastSymbol (byte : UInt8) (offset : Nat)
  | invalidPadding
deriving DecidableEq, Repr

def Error.message : Error → Text
  | .invalidByte byte offset =>
    "Invalid byte ".toList ++ Text.ofNat byte.toNat ++ ", offset ".toList ++ Text.ofNat offset ++
      ['.']
  | .invalidLength => "Encoded text cannot have a 6-bit remainder.".toList
  | .invalidLastSymbol byte offset =>
    "Invalid last symbol ".toList ++ Text.ofNat byte.toNat ++ ", offset ".toList ++
      Text.ofNat offset ++ ['.']
  | .invalidPadding => "Invalid padding".toList

/-- The bytes that symbol values stand for. The bits left over by the last one are dropped. -/
def join : List Nat → Bytes
  | a :: b :: c :: d :: rest =>
    UInt8.ofNat (a * 4 + b / 16) :: UInt8.ofNat (b % 16 * 16 + c / 4) ::
      UInt8.ofNat (c % 4 * 64 + d) :: join rest
  | [a, b, c] => [UInt8.ofNat (a * 4 + b / 16), UInt8.ofNat (b % 16 * 16 + c / 4)]
  | [a, b] => [UInt8.ofNat (a * 4 + b / 16)]
  | _ => []

def unusedBits (count last : Nat) : Nat :=
  match count % 4 with
  | 2 => last % 16
  | 3 => last % 4
  | _ => 0

def isSymbol (byte : UInt8) : Bool := (value? byte).isSome

/-- Decodes bytes of text. A length of one more than a multiple of four is reported first, by its
last byte if that can never stand in a text; then the first byte that is out of place, a padding
sign counting as such unless it completes the last four; then missing padding; then unused bits. -/
def decodeBytes (input : Bytes) : Except Error Bytes :=
  let symbols := input.takeWhile isSymbol
  let rest := input.dropWhile isSymbol
  let count := symbols.length
  let finish : Except Error Bytes :=
    if input.length % 4 ≠ 0 then .error .invalidPadding
    else
      let values := symbols.filterMap value?
      if unusedBits count (values.getLastD 0) ≠ 0 then
        .error (.invalidLastSymbol (symbols.getLastD 0) (count - 1))
      else .ok (join values)
  if input.length % 4 = 1 then
    match input.getLast? with
    | some last =>
      if last ≠ pad ∧ !isSymbol last then .error (.invalidByte last (input.length - 1))
      else .error .invalidLength
    | none => .error .invalidLength
  else match rest with
    | [] => finish
    | first :: _ =>
      if first = pad ∧ 2 ≤ count % 4 ∧ rest.all (· == pad) ∧ rest.length ≤ 4 - count % 4 then finish
      else .error (.invalidByte first count)

/-- Decodes a text; offsets in errors count the bytes of its UTF-8 form. -/
def decode (t : Text) : Except Error Bytes := decodeBytes t.utf8

end Pagecraft.Base64
