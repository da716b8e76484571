import Pagecraft.Json.Basic
import Pagecraft.Number.Shortest

/-! JSON text, compact or with one member per line. Members are printed in their order. -/
namespace Pagecraft.Json

/-- Doubles are printed with their shortest digits and always show a point or an exponent:
positional from `1e-5` to below `1e16`, and else scientific with the sign of the exponent. -/
def Number.ofDouble (value : Binary64) : Text :=
  let sign : Text := if value.negative then ['-'] else []
  if value.magnitude = 0 then sign ++ ['0', '.', '0']
  else
    let ⟨digits, exponent⟩ := Shortest.ofMagnitude value.magnitude
    sign ++
      if 0 ≤ exponent ∧ exponent ≤ 15 then
        let width := exponent.toNat + 1
        let whole := digits.take width ++ List.replicate (width - digits.length) '0'
        let fraction := digits.drop width
        whole ++ '.' :: (if fraction.isEmpty then ['0'] else fraction)
      else if -5 ≤ exponent ∧ exponent < 0 then
        ['0', '.'] ++ List.replicate ((-exponent).toNat - 1) '0' ++ digits
      else
        let fraction := digits.drop 1
        digits.take 1 ++ (if fraction.isEmpty then [] else '.' :: fraction) ++
          'e' :: (if 0 ≤ exponent then '+' :: Text.ofInt exponent else Text.ofInt exponent)

def Number.text : Number → Text
  | .integer value => Text.ofInt value
  | .float value => Number.ofDouble value

def escape (c : Char) : Text :=
  match c with
  | '"' => ['\\', '"']
  | '\\' => ['\\', '\\']
  | '\x08' => ['\\', 'b']
  | '\x0c' => ['\\', 'f']
  | '\n' => ['\\', 'n']
  | '\r' => ['\\', 'r']
  | '\t' => ['\\', 't']
  | c =>
    if c.toNat < 0x20 then
      ['\\', 'u', '0', '0', Nat.digitChar (c.toNat / 16), Nat.digitChar (c.toNat % 16)]
    else [c]

def quote (t : Text) : Text := '"' :: t.flatMap escape ++ ['"']

mutual

def compact : Json → Text
  | .null => "null".toList
  | .bool true => "true".toList
  | .bool false => "false".toList
  | .number n => n.text
  | .string t => quote t
  | .array [] => ['[', ']']
  | .array (item :: items) => '[' :: compact item ++ compactItems items ++ [']']
  | .object [] => ['{', '}']
  | .object ((name, value) :: members) =>
    '{' :: quote name ++ ':' :: compact value ++ compactMembers members ++ ['}']

def compactItems : List Json → Text
  | [] => []
  | item :: items => ',' :: compact item ++ compactItems items

def compactMembers : List (Text × Json) → Text
  | [] => []
  | (name, value) :: members =>
    ',' :: quote name ++ ':' :: compact value ++ compactMembers members

end

def newLine (level : Nat) : Text := '\n' :: List.replicate (2 * level) ' '

mutual

def pretty (level : Nat) : Json → Text
  | .null => "null".toList
  | .bool true => "true".toList
  | .bool false => "false".toList
  | .number n => n.text
  | .string t => quote t
  | .array [] => ['[', ']']
  | .array (item :: items) =>
    '[' :: newLine (level + 1) ++ pretty (level + 1) item ++ prettyItems (level + 1) items ++
      newLine level ++ [']']
  | .object [] => ['{', '}']
  | .object ((name, value) :: members) =>
    '{' :: newLine (level + 1) ++ quote name ++ [':', ' '] ++ pretty (level + 1) value ++
      prettyMembers (level + 1) members ++ newLine level ++ ['}']

def prettyItems (level : Nat) : List Json → Text
  | [] => []
  | item :: items => ',' :: newLine level ++ pretty level item ++ prettyItems level items

def prettyMembers (level : Nat) : List (Text × Json) → Text
  | [] => []
  | (name, value) :: members =>
    ',' :: newLine level ++ quote name ++ [':', ' '] ++ pretty level value ++
      prettyMembers level members

end

end Pagecraft.Json
