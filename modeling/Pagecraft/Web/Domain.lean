import Pagecraft.Web.Domain.Direction
import Pagecraft.Web.Domain.Label

/-! The ASCII form of a domain: small letters, and labels with other characters in Punycode. -/
namespace Pagecraft.Domain

def forbidden : Text := "#/:<>?@[\\]^|%".toList

def isForbidden (c : Char) : Bool :=
  c.toNat ≤ 0x20 || c.toNat = 0x7f || forbidden.contains c

def labels? (domain : Text) : Option (List Label) := do
  let folded ← domain.mapM fold?
  (Text.pieces '.' (compose folded.flatten)).mapM Label.ofText?

def toAscii? (domain : Text) : Option Text := do
  let labels ← labels? domain
  let ascii := List.intercalate ['.'] (labels.map Label.ascii)
  if directionsAgree (labels.map Label.text) && !ascii.any isForbidden then some ascii else none

end Pagecraft.Domain
