import Pagecraft.Source.Basic
import Pagecraft.Text.Blank

/-! A source on the web. -/
namespace Pagecraft

def engineVersion : Text := "1.0.0".toList

structure Response where
  status : Nat
  contentType : Option Text
  body : Bytes

/-- How requests are sent; `none` if there is no response. -/
abbrev Transport (m : Type → Type) := Url → m (Option Response)

def Transport.timeoutSeconds : Nat := 30

def Transport.userAgent : Text := "landingforge/".toList ++ engineVersion

def Transport.offline [Monad m] : Transport m := fun _ => pure none

def Response.mediaType? (response : Response) : Option Text :=
  (response.contentType.map fun value => Text.trim (value.takeWhile (· != ';'))).filter
    (!List.isEmpty ·)

namespace Source

def ofResponse (url : Url) (response : Response) : Except SourceError Fetched :=
  if response.status = 404 then .error (.notFound url.text)
  else if response.status < 200 ∨ 300 ≤ response.status then .error (.status url response.status)
  else .ok ⟨response.body, response.mediaType?⟩

/-- Requests the address of a path as seen from the base. What is requested is the text of the
address, read again. -/
def request [Monad m] (transport : Transport m) (base : Url) (path : Text) :
    m (Except SourceError Fetched) := do
  if isInside path then
    match base.join path with
    | .error cause => return .error (.invalidUrl cause)
    | .ok url =>
      match Url.ofText? url.text with
      | .error _ => return .error .notReadable
      | .ok requested =>
        if requested.isWeb then
          match ← transport requested with
          | some response => return ofResponse url response
          | none => return .error (.noResponse requested)
        else return .error (.notRequestable requested)
  else return .error (.invalidPath path)

/-- The source at an address, which is taken to be that of a directory. -/
def site [Monad m] (transport : Transport m) (address : Url) : Source m :=
  let base := address.asDirectory
  ⟨base.text, request transport base⟩

end Source
end Pagecraft
