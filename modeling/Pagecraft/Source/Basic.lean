import Pagecraft.Content.Node
import Pagecraft.Disk.Fault
import Pagecraft.Web.Join

/-! Sources: fixed places that hold the template of a page and its static assets. -/
namespace Pagecraft

/-- What a source gives. The content type is known only if the source states it. -/
structure Fetched where
  bytes : Bytes
  contentType : Option Text
deriving DecidableEq, Repr

inductive SourceError where
  | notFound (what : Text)
  | invalidPath (path : Text)
  | status (url : Url) (code : Nat)
  | noResponse (url : Url)
  | notRequestable (url : Url)
  | notReadable
  | invalidUrl (cause : Url.Error)
  | disk (fault : Fault)
  | templateNotUtf8
  | invalidContent
deriving DecidableEq, Repr

/-- Addresses that could not be requested are shown without user and password. -/
def SourceError.message : SourceError → Text
  | .notFound what => "Resource not found: ".toList ++ what
  | .invalidPath path => "Invalid resource path: ".toList ++ path
  | .status url code => "HTTP ".toList ++ Text.ofNat code ++ " fetching ".toList ++ url.text
  | .noResponse url =>
    "HTTP client error: error sending request for url (".toList ++ url.anonymous.text ++ [')']
  | .notRequestable url =>
    "HTTP client error: builder error for url (".toList ++ url.anonymous.text ++ [')']
  | .notReadable => "HTTP client error: builder error".toList
  | .invalidUrl cause => "URL error: ".toList ++ cause.message
  | .disk fault => "I/O error: ".toList ++ fault.message
  | .templateNotUtf8 => "Template document is not valid UTF-8".toList
  | .invalidContent => "Invalid default content: not a JSON text".toList

structure Source (m : Type → Type) where
  root : Text
  /-- Fetches a file by its path from the root, without a leading slash. -/
  fetch : Text → m (Except SourceError Fetched)

namespace Source

def templateName : Text := "template.html".toList

def contentName : Text := "template.json".toList

/-- Paths that do not leave the root: neither empty nor absolute, without backslashes, and with no
segment that is the parent. -/
def isInside (path : Text) : Bool :=
  !path.isEmpty && path.head? ≠ some '/' && !path.contains '\\' &&
    !(path.pieces '/').contains ['.', '.']

def template [Monad m] (source : Source m) : m (Except SourceError Text) := do
  match ← source.fetch templateName with
  | .error e => return .error e
  | .ok fetched =>
    match Text.ofUtf8? fetched.bytes with
    | some text => return .ok text
    | none => return .error .templateNotUtf8

def content [Monad m] (source : Source m) : m (Except SourceError Node) := do
  match ← source.fetch contentName with
  | .error e => return .error e
  | .ok fetched =>
    match (Text.ofUtf8? fetched.bytes).bind Node.ofText? with
    | some content => return .ok content
    | none => return .error .invalidContent

end Source
end Pagecraft
