import Pagecraft.Text.Basic

/-! Punycode, which writes the labels of a domain in ASCII. -/
namespace Pagecraft.Punycode

def digit (value : Nat) : Char :=
  if value < 26 then Char.ofNat (value + 'a'.toNat) else Char.ofNat (value - 26 + '0'.toNat)

def value? (c : Char) : Option Nat :=
  if c.isAlpha then some (c.toLower.toNat - 'a'.toNat)
  else if c.isDigit then some (c.toNat - '0'.toNat + 26)
  else none

def threshold (position bias : Nat) : Nat := max 1 (min 26 (position - bias))

/-- A number as digits of growing weight, the last of them below its threshold. -/
def digits (position bias n : Nat) : Text :=
  let t := threshold position bias
  if n < t then [digit n]
  else digit (t + (n - t) % (36 - t)) :: digits (position + 36) bias ((n - t) / (36 - t))
termination_by n
decreasing_by
  refine Nat.lt_of_le_of_lt (Nat.div_le_self _ _) ?_
  have : 1 ≤ threshold position bias := Nat.le_max_left _ _
  omega

/-- Divides a difference down and counts the positions that this takes. -/
def settle (delta position : Nat) : Nat :=
  if 455 < delta then settle (delta / 35) (position + 36)
  else position + 36 * delta / (delta + 38)

def adapt (delta count : Nat) (first : Bool) : Nat :=
  let delta := if first then delta / 700 else delta / 2
  settle (delta + delta / count) 0

structure State where
  /-- The code that the next characters are compared with. -/
  code : Nat := 128
  delta : Nat := 0
  bias : Nat := 72
  written : Nat
  output : Text

def encodeChar (basic : Nat) (s : State) (c : Char) : State :=
  if c.toNat < s.code then { s with delta := s.delta + 1 }
  else if c.toNat = s.code then
    { s with
      delta := 0
      bias := adapt s.delta (s.written + 1) (s.written = basic)
      written := s.written + 1
      output := s.output ++ digits 36 s.bias s.delta }
  else s

/-- The characters with the next code that occurs. -/
def encodeCode (input : Text) (basic : Nat) (s : State) (code : Nat) : State :=
  let s := { s with delta := s.delta + (code - s.code) * (s.written + 1), code := code }
  let s := input.foldl (encodeChar basic) s
  { s with delta := s.delta + 1, code := s.code + 1 }

def encode (input : Text) : Text :=
  let basic := input.filter fun c => c.toNat < 128
  let others := ((input.map Char.toNat).filter (128 ≤ ·)).eraseDups.mergeSort
  let start : State :=
    { written := basic.length, output := if basic.isEmpty then [] else basic ++ ['-'] }
  (others.foldl (encodeCode input basic.length) start).output

def number? (position bias weight : Nat) : Text → Option (Nat × Text)
  | [] => none
  | c :: rest => do
    let value ← value? c
    let t := threshold position bias
    if value < t then return (value * weight, rest)
    else if UInt32.size ≤ weight * (36 - t) then none
    else
      let (more, rest) ← number? (position + 36) bias (weight * (36 - t)) rest
      return (value * weight + more, rest)

/-- Inserts the characters that digits stand for; each takes at least one digit, and the first
argument counts them. -/
def insertAll? : Nat → Text → (code position bias : Nat) → Text → Option Text
  | _, [], _, _, _, output => some output
  | 0, _ :: _, _, _, _, _ => none
  | n + 1, input, code, position, bias, output => do
    let (delta, rest) ← number? 36 bias 1 input
    let count := output.length + 1
    let bias := adapt delta count (position = 0)
    let shift := position + delta
    let code := code + shift / count
    let position := shift % count
    if UInt32.size ≤ shift || 0x10ffff < code || 0xd800 ≤ code && code < 0xe000 then none
    else insertAll? n rest code (position + 1) bias (output.insertIdx position (Char.ofNat code))

def decode? (input : Text) : Option Text :=
  match Text.cutLast? '-' input with
  | some (c :: basic, rest) => insertAll? rest.length rest 128 0 72 (c :: basic)
  | _ => insertAll? input.length input 128 0 72 []

end Pagecraft.Punycode
