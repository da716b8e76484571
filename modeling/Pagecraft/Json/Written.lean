import Pagecraft.Json.Basic

/-! JSON text as it is written: the grammar alone, before numbers are given a value, escapes
are joined to characters and nesting is limited. Text that a reader skips is held to the
grammar and to nothing else. -/
namespace Pagecraft.Json

/-- One written character of a string: itself, or a 16-bit unit written as `\uXXXX`. -/
inductive Glyph where
  | plain (c : Char)
  | unit (code : Nat)
deriving DecidableEq, Repr

structure Numeral where
  negative : Bool
  whole : List Nat
  fraction : Option (List Nat)
  exponent : Option (Bool × List Nat)
deriving DecidableEq, Repr

inductive Written where
  | null
  | bool (value : Bool)
  | number (numeral : Numeral)
  | string (glyphs : List Glyph)
  | array (items : List Written)
  | object (members : List (List Glyph × Written))
deriving Repr

namespace Written

def isSpace (c : Char) : Bool := c == ' ' || c == '\n' || c == '\t' || c == '\r'

def skipSpace (t : Text) : Text := t.dropWhile isSpace

def digits (t : Text) : List Nat × Text :=
  ((t.takeWhile Char.isDigit).map fun c => c.toNat - '0'.toNat, t.dropWhile Char.isDigit)

def whole? (t : Text) : Option (List Nat × Text) :=
  match digits t with
  | ([], _) => none
  | ([d], rest) => some ([d], rest)
  | (0 :: _, _) => none
  | (ds, rest) => some (ds, rest)

def fraction? (t : Text) : Option (Option (List Nat) × Text) :=
  match t with
  | '.' :: t =>
    match digits t with
    | ([], _) => none
    | (ds, rest) => some (some ds, rest)
  | _ => some (none, t)

def exponentDigits? (negative : Bool) (t : Text) : Option (Option (Bool × List Nat) × Text) :=
  match digits t with
  | ([], _) => none
  | (ds, rest) => some (some (negative, ds), rest)

def exponent? (t : Text) : Option (Option (Bool × List Nat) × Text) :=
  match t with
  | c :: t' =>
    if c = 'e' ∨ c = 'E' then
      match t' with
      | '+' :: rest => exponentDigits? false rest
      | '-' :: rest => exponentDigits? true rest
      | _ => exponentDigits? false t'
    else some (none, t)
  | [] => some (none, t)

def numeral? (t : Text) : Option (Numeral × Text) := do
  let (negative, t) := match t with
    | '-' :: rest => (true, rest)
    | _ => (false, t)
  let (whole, t) ← whole? t
  let (fraction, t) ← fraction? t
  let (exponent, t) ← exponent? t
  return (⟨negative, whole, fraction, exponent⟩, t)

def hexValue? (c : Char) : Option Nat :=
  if c.isDigit then some (c.toNat - '0'.toNat)
  else if 'a' ≤ c ∧ c ≤ 'f' then some (c.toNat - 'a'.toNat + 10)
  else if 'A' ≤ c ∧ c ≤ 'F' then some (c.toNat - 'A'.toNat + 10)
  else none

def unit? (a b c d : Char) : Option Nat := do
  return 4096 * (← hexValue? a) + 256 * (← hexValue? b) + 16 * (← hexValue? c) + (← hexValue? d)

def simpleEscape? : Char → Option Char
  | '"' => some '"'
  | '\\' => some '\\'
  | '/' => some '/'
  | 'b' => some '\x08'
  | 'f' => some '\x0c'
  | 'n' => some '\n'
  | 'r' => some '\r'
  | 't' => some '\t'
  | _ => none

def glyphs? : Text → Option (List Glyph × Text)
  | [] => none
  | '"' :: rest => some ([], rest)
  | '\\' :: 'u' :: a :: b :: c :: d :: rest => do
    let unit ← unit? a b c d
    let (glyphs, rest) ← glyphs? rest
    return (.unit unit :: glyphs, rest)
  | '\\' :: c :: rest => do
    let c ← simpleEscape? c
    let (glyphs, rest) ← glyphs? rest
    return (.plain c :: glyphs, rest)
  | c :: rest =>
    if c.toNat < 0x20 ∨ c = '\\' then none
    else do
      let (glyphs, rest) ← glyphs? rest
      return (.plain c :: glyphs, rest)

def name? (t : Text) : Option (List Glyph × Text) :=
  match skipSpace t with
  | '"' :: t => do
    let (name, t) ← glyphs? t
    match skipSpace t with
    | ':' :: t => some (name, t)
    | _ => none
  | _ => none

mutual

/-- One value at the start of a text, after any space. The first argument bounds the number of
nested calls; one more than the length of the text is always enough. -/
def value? : Nat → Text → Option (Written × Text)
  | 0, _ => none
  | fuel + 1, t =>
    match skipSpace t with
    | 'n' :: 'u' :: 'l' :: 'l' :: rest => some (.null, rest)
    | 't' :: 'r' :: 'u' :: 'e' :: rest => some (.bool true, rest)
    | 'f' :: 'a' :: 'l' :: 's' :: 'e' :: rest => some (.bool false, rest)
    | '"' :: rest => (glyphs? rest).map fun (glyphs, rest) => (.string glyphs, rest)
    | '[' :: rest =>
      match skipSpace rest with
      | ']' :: rest => some (.array [], rest)
      | _ => do
        let (item, rest) ← value? fuel rest
        let (items, rest) ← items? fuel rest
        return (.array (item :: items), rest)
    | '{' :: rest =>
      match skipSpace rest with
      | '}' :: rest => some (.object [], rest)
      | _ => do
        let (name, rest) ← name? rest
        let (value, rest) ← value? fuel rest
        let (members, rest) ← members? fuel rest
        return (.object ((name, value) :: members), rest)
    | t => (numeral? t).map fun (numeral, rest) => (.number numeral, rest)

def items? : Nat → Text → Option (List Written × Text)
  | 0, _ => none
  | fuel + 1, t =>
    match skipSpace t with
    | ']' :: rest => some ([], rest)
    | ',' :: rest => do
      let (item, rest) ← value? fuel rest
      let (items, rest) ← items? fuel rest
      return (item :: items, rest)
    | _ => none

def members? : Nat → Text → Option (List (List Glyph × Written) × Text)
  | 0, _ => none
  | fuel + 1, t =>
    match skipSpace t with
    | '}' :: rest => some ([], rest)
    | ',' :: rest => do
      let (name, rest) ← name? rest
      let (value, rest) ← value? fuel rest
      let (members, rest) ← members? fuel rest
      return ((name, value) :: members, rest)
    | _ => none

end

def ofText? (t : Text) : Option Written := do
  let (value, rest) ← value? (t.length + 1) t
  if (skipSpace rest).isEmpty then some value else none

end Written
end Pagecraft.Json
