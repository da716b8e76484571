import Pagecraft.Text.Hex

/-! Random identifiers: version 4 UUIDs, in small letters and with hyphens. -/
namespace Pagecraft.Uuid

def groups : List Nat := [4, 2, 2, 2, 6]

def split : List Nat → Bytes → List Bytes
  | [], _ => []
  | n :: rest, bytes => bytes.take n :: split rest (bytes.drop n)

def mark (bytes : Bytes) : Bytes :=
  bytes.mapIdx fun i byte =>
    if i = 6 then byte &&& 0x0f ||| 0x40 else if i = 8 then byte &&& 0x3f ||| 0x80 else byte

def ofBytes (random : Bytes) : Text :=
  List.intercalate ['-'] ((split groups (mark random)).map Hex.encode)

def isDigit (c : Char) : Bool := c.isDigit || 'a' ≤ c && c ≤ 'f'

def isV4 (t : Text) : Bool :=
  match t.pieces '-' with
  | [a, b, c, d, e] =>
    [a, b, c, d, e].map List.length = groups.map (2 * ·) &&
      [a, b, c, d, e].all (·.all isDigit) && c.head? = some '4' &&
      d.head?.any fun digit => "89ab".toList.contains digit
  | _ => false

end Pagecraft.Uuid
