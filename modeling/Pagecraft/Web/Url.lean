import Pagecraft.Web.Percent

/-! Addresses by their parts, and their text. All parts are kept as they are written, that is,
percent-encoded. -/
namespace Pagecraft

structure Url.Authority where
  username : Text
  password : Option Text
  host : Text
  port : Option Nat
deriving DecidableEq, Repr

/-- A path is a list of segments, each after a slash, or a text without structure. -/
inductive Url.Path where
  | segments (segments : List Text)
  | plain (text : Text)
deriving DecidableEq, Repr

structure Url where
  scheme : Text
  authority : Option Url.Authority
  path : Url.Path
  query : Option Text
  fragment : Option Text
deriving DecidableEq, Repr

namespace Url

def defaultPort? (scheme : Text) : Option Nat :=
  [("http".toList, 80), ("https".toList, 443), ("ws".toList, 80), ("wss".toList, 443),
    ("ftp".toList, 21)].lookup scheme

def fileScheme : Text := "file".toList

/-- The schemes for which a backslash is a slash and a path is never empty. -/
def isSpecial (scheme : Text) : Bool := (defaultPort? scheme).isSome || scheme = fileScheme

def isWeb (url : Url) : Bool := url.scheme = "http".toList || url.scheme = "https".toList

def Authority.text (authority : Authority) : Text :=
  let user := authority.username ++ authority.password.elim [] (':' :: ·)
  (if user.isEmpty then [] else user ++ ['@']) ++ authority.host ++
    authority.port.elim [] fun port => ':' :: Text.ofNat port

def segmentsText (segments : List Text) : Text := segments.flatMap ('/' :: ·)

/-- Without an authority, a path that begins with two slashes is set off by a dot. -/
def pathText (url : Url) : Text :=
  match url.path, url.authority with
  | .plain text, _ => text
  | .segments ([] :: s :: rest), none => "/.".toList ++ segmentsText ([] :: s :: rest)
  | .segments segments, _ => segmentsText segments

def text (url : Url) : Text :=
  url.scheme ++ ':' :: (url.authority.elim [] fun authority => "//".toList ++ authority.text) ++
    url.pathText ++ url.query.elim [] ('?' :: ·) ++ url.fragment.elim [] ('#' :: ·)

/-- An authority without user and password, as they are sent in a header. What is not UTF-8 cannot
be sent, and is left where it is. -/
def Authority.anonymous (authority : Authority) : Authority :=
  let canBeSent (t : Text) : Bool := (Text.ofUtf8? (Percent.decode t)).isSome
  if canBeSent authority.username &&
      (!authority.username.isEmpty || authority.password.any canBeSent) then
    { authority with username := [], password := none }
  else authority

def anonymous (url : Url) : Url :=
  { url with authority := url.authority.map Authority.anonymous }

/-- The address with a slash at the end of its path, so that joining keeps all of the path. -/
def asDirectory (url : Url) : Url :=
  match url.path with
  | .segments segments =>
    if segments.getLast? = some [] then url else { url with path := .segments (segments ++ [[]]) }
  | .plain _ => url

end Url
end Pagecraft
