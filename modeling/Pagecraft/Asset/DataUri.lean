import Pagecraft.Text.Base64
import Pagecraft.Text.Blank

/-! Data URIs, which carry a file inside a text: `data:<media type>;base64,<payload>`. -/
namespace Pagecraft.DataUri

def encode (mediaType : Text) (bytes : Bytes) : Text :=
  "data:".toList ++ mediaType ++ ";base64,".toList ++ Base64.encode bytes

inductive Error where
  | missingSeparator
  | invalidPayload (cause : Base64.Error)
deriving DecidableEq, Repr

def Error.message : Error → Text
  | .missingSeparator => "Not a data URI: missing ',' separator".toList
  | .invalidPayload cause => "Invalid base64 payload: ".toList ++ cause.message

def decode (uri : Text) : Except Error Bytes :=
  match Text.cut? [','] uri with
  | none => .error .missingSeparator
  | some (_, payload) => (Base64.decode (Text.trim payload)).mapError .invalidPayload

end Pagecraft.DataUri
