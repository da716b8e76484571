import Pagecraft.Text.Hex
import Pagecraft.Text.Utf8

/-! Percent-encoding in addresses, and which characters are encoded where. -/
namespace Pagecraft.Percent

def ofByte (byte : UInt8) : Text := '%' :: (Hex.ofByte byte).map Char.toUpper

def encode (reserved : Text) (t : Text) : Text :=
  t.flatMap fun c =>
    if c.toNat < 0x20 || 0x7f ≤ c.toNat || reserved.contains c then
      (String.utf8EncodeChar c).flatMap ofByte
    else [c]

/-- The bytes of a text in which percent-encoded bytes are decoded. A sign without two digits
stands for itself. -/
def decode : Text → Bytes
  | [] => []
  | '%' :: high :: low :: rest =>
    match Hex.value? high, Hex.value? low with
    | some h, some l => UInt8.ofNat (16 * h + l) :: decode rest
    | _, _ => 0x25 :: decode (high :: low :: rest)
  | c :: rest => String.utf8EncodeChar c ++ decode rest

def fragment : Text := " \"<>`".toList

def path : Text := fragment ++ "#?\x7b\x7d".toList

def userInfo : Text := path ++ "/:;=@[\\]^|".toList

def query : Text := " \"#<>".toList

def specialQuery : Text := '\'' :: query

end Pagecraft.Percent
