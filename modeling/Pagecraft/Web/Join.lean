import Pagecraft.Web.Address
import Pagecraft.Web.Domain
import Pagecraft.Web.Percent
import Pagecraft.Web.Url

/-! Reading addresses, alone or relative to another one. -/
namespace Pagecraft.Url

inductive Error where
  | emptyHost
  | invalidDomain
  | invalidDomainCharacter
  | invalidPort
  | invalidIpv4
  | invalidIpv6
  | relativeWithoutBase
  | relativeToPlainPath
deriving DecidableEq, Repr

def Error.message : Error → Text
  | .emptyHost => "empty host".toList
  | .invalidDomain => "invalid international domain name".toList
  | .invalidDomainCharacter => "invalid domain character".toList
  | .invalidPort => "invalid port number".toList
  | .invalidIpv4 => "invalid IPv4 address".toList
  | .invalidIpv6 => "invalid IPv6 address".toList
  | .relativeWithoutBase => "relative URL without a base".toList
  | .relativeToPlainPath => "relative URL with a cannot-be-a-base base".toList

/-- Segments that go up to the parent, spelled with dots or with encoded dots. -/
def isUp (segment : Text) : Bool :=
  ["..".toList, ".%2e".toList, "%2e.".toList, "%2e%2e".toList].contains (Text.lower segment)

def isStay (segment : Text) : Bool := [".".toList, "%2e".toList].contains (Text.lower segment)

/-- Segments that name a drive, a letter and a colon or bar. -/
def isDrive : Text → Bool
  | [letter, mark] => letter.isAlpha && (mark == ':' || mark == '|')
  | _ => false

/-- One segment less, but a drive at the end stays. -/
def up (segments : List Text) : List Text :=
  if segments.getLast?.any isDrive then segments else segments.dropLast

def step (start : List Text) (segment : Text) : List Text :=
  if isUp segment then up start
  else if isStay segment then start
  else start ++ [Percent.encode Percent.path segment]

/-- Walks along further segments. A path that ends in dots ends in a slash. -/
def walk (start : List Text) : List Text → List Text
  | [] => start
  | [last] => if isUp last || isStay last then step start last ++ [[]] else step start last
  | segment :: rest => walk (step start segment) rest

def segmentsOf (special : Bool) (t : Text) : List Text :=
  Text.pieces '/' (if special then Text.swap '\\' '/' t else t)

def isSlash (special : Bool) (c : Char) : Bool := c == '/' || special && c == '\\'

def bracketed? (t : Text) : Except Error Text :=
  match t.getLast?, Ipv6.ofText? (t.drop 1).dropLast with
  | some ']', some pieces => .ok ('[' :: Ipv6.text pieces ++ [']'])
  | _, _ => .error .invalidIpv6

def specialHost? (t : Text) : Except Error Text :=
  if t.head? = some '[' then bracketed? t
  else match (Text.ofUtf8? (Percent.decode t)).bind Domain.toAscii? with
    | none => .error .invalidDomain
    | some domain =>
      if domain.isEmpty then .error .emptyHost
      else if Ipv4.isMeant domain then
        match Ipv4.ofHost? domain with
        | some address => .ok (Ipv4.text address)
        | none => .error .invalidIpv4
      else .ok domain

/-- Other hosts are not interpreted, but some characters are refused. -/
def otherHost? (t : Text) : Except Error Text :=
  if t.head? = some '[' then bracketed? t
  else if t.any ("\x00 #/:<>?@[\\]^|".toList.contains ·) then .error .invalidDomainCharacter
  else .ok (Percent.encode [] t)

/-- A host up to the colon of the port; colons in brackets belong to the host. -/
def splitHost (inside : Bool) : Text → Text × Text
  | [] => ([], [])
  | c :: t =>
    if c = ':' && !inside then ([], c :: t)
    else
      let (host, port) := splitHost (if c = '[' then true else if c = ']' then false else inside) t
      (c :: host, port)

def port? (scheme : Text) (t : Text) : Except Error (Option Nat × Text) :=
  match t with
  | ':' :: t =>
    let rest := t.dropWhile Char.isDigit
    if rest.isEmpty || rest.head? = some '\\' then
      match Text.toNat? (t.takeWhile Char.isDigit) with
      | some n =>
        if 65535 < n then .error .invalidPort
        else .ok (if defaultPort? scheme = some n then none else some n, rest)
      | none => .ok (none, rest)
    else .error .invalidPort
  | _ => .ok (none, t)

/-- The authority at the start of a text, and the path after it. Whether a query or a fragment
follows matters for an at sign without a user and a host around it. -/
def authority? (scheme : Text) (followed : Bool) (t : Text) : Except Error (Authority × Text) := do
  let special := isSpecial scheme
  let front := t.takeWhile (!isSlash special ·)
  let path := t.dropWhile (!isSlash special ·)
  let (user, hostAndPort) := (Text.cutLast? '@' front).getD ([], front)
  let (name, password) := (Text.cut? [':'] user).getD (user, [])
  let username := Percent.encode Percent.userInfo name
  let password :=
    if password.isEmpty then none else some (Percent.encode Percent.userInfo password)
  let (host, portText) := splitHost false hostAndPort
  let named := !username.isEmpty || password.isSome ||
    front.head? = some '@' && (followed || !path.isEmpty)
  if host.isEmpty && (special || named || !portText.isEmpty) then throw Error.emptyHost
  let host ← if special then specialHost? host else otherHost? host
  let (port, rest) ← port? scheme portText
  return (⟨username, password, host, port⟩, rest ++ path)

def splitAt (mark : Char) (t : Text) : Text × Option Text :=
  match Text.cut? [mark] t with
  | some (before, after) => (before, some after)
  | none => (t, none)

def isSchemeChar (c : Char) : Bool := c.isAlphanum || c == '+' || c == '-' || c == '.'

def scheme? (t : Text) : Option (Text × Text) :=
  match t.takeWhile isSchemeChar, t.dropWhile isSchemeChar with
  | c :: scheme, ':' :: rest => if c.isAlpha then some (Text.lower (c :: scheme), rest) else none
  | _, _ => none

def withAuthority? (scheme t : Text) (query fragment : Option Text) : Except Error Url := do
  let special := isSpecial scheme
  let (authority, path) ← authority? scheme (query.isSome || fragment.isSome) t
  let segments :=
    match path with
    | [] => if special then [[]] else []
    | c :: rest => walk [] (segmentsOf special (if isSlash special c then rest else c :: rest))
  return ⟨scheme, some authority, .segments segments, query, fragment⟩

def isBreak (c : Char) : Bool := c == '\t' || c == '\n' || c == '\r'

def unbroken (t : Text) : Text := t.filter (!isBreak ·)

/-- A path with a drive in front, which is written with a colon. -/
def atDrive? : List Text → Option (List Text)
  | [letter, mark] :: rest => if isDrive [letter, mark] then some ([letter, ':'] :: rest) else none
  | _ => none

/-- A drive with a colon and what follows it in its segment, if a break sets it off. -/
def cutDrive? (segment : Text) : Option (Text × Text) :=
  match unbroken segment, (segment.dropWhile (· != ':')).drop 1 with
  | letter :: ':' :: rest, next :: _ =>
    if letter.isAlpha && isBreak next && !rest.isEmpty then some ([letter, ':'], rest) else none
  | _, _ => none

/-- The walk along a path in which a drive in front is set off by a break. It ends there as before
a slash, and what follows it is taken as it is. -/
def walkAtBreak? (start : List Text) : List Text → Option (List Text)
  | [] => none
  | segment :: rest =>
    match if start.isEmpty then cutDrive? segment else none with
    | some (drive, name) => some (walk [drive, Percent.encode Percent.path name] (rest.map unbroken))
    | none => walkAtBreak? (step start (unbroken segment)) rest

/-- The address of a file, by a path that may hold breaks. A drive takes the place of its host if
no break sets it off; without one, the path has no empty segments in front. -/
def ofFile (host path : Text) (query fragment : Option Text) : Url :=
  let parts := segmentsOf true path
  let (host, segments) :=
    match walkAtBreak? [] parts with
    | some segments => (host, segments)
    | none =>
      let segments := walk [] (parts.map unbroken)
      match atDrive? segments with
      | some segments => ([], segments)
      | none => (host, segments.dropWhile List.isEmpty)
  ⟨fileScheme, some ⟨[], none, host, none⟩,
    .segments (if segments.isEmpty then [[]] else segments), query, fragment⟩

def afterSlash? (t : Text) : Option Text :=
  match t.dropWhile isBreak with
  | c :: rest => if isSlash true c then some rest else none
  | [] => none

/-- An address of a file names a host after two slashes, unless a drive follows them. Where the
host is this machine, the slash after it counts as a segment. -/
def file? (t : Text) (query fragment : Option Text) : Except Error Url := do
  match afterSlash? t with
  | none => return ofFile [] t query fragment
  | some t =>
    match afterSlash? t with
    | none => return ofFile [] t query fragment
    | some t =>
      let name := unbroken (t.takeWhile (!isSlash true ·))
      let path := t.dropWhile (!isSlash true ·)
      if isDrive name then return ofFile [] t query fragment
      let host ← if name.isEmpty then pure [] else specialHost? name
      if host.isEmpty || host = "localhost".toList then return ofFile [] path query fragment
      return ofFile host (path.drop 1) query fragment

/-- An address without a scheme, relative to a base that has segments. -/
def relative? (base : Url) (segments : List Text) (t : Text) (query fragment : Option Text) :
    Except Error Url :=
  let special := isSpecial base.scheme
  match t with
  | [] =>
    .ok { base with query := if query.isSome then query else base.query, fragment := fragment }
  | '/' :: '/' :: rest => withAuthority? base.scheme rest query fragment
  | a :: rest =>
    if isSlash special a then
      if (rest.head?).any (isSlash special) then
        withAuthority? base.scheme (t.dropWhile (isSlash special)) query fragment
      else .ok { base with
        path := .segments (walk [] (segmentsOf special rest))
        query := query
        fragment := fragment }
    else .ok { base with
      path := .segments (walk segments.dropLast (segmentsOf special t))
      query := query
      fragment := fragment }

def schemeless? (base : Option Url) (t : Text) (query fragment : Option Text) : Except Error Url :=
  match base with
  | none => .error .relativeWithoutBase
  | some base =>
    match base.path with
    | .segments segments => relative? base segments t query fragment
    | .plain _ =>
      if t.isEmpty && query.isNone && fragment.isSome then .ok { base with fragment := fragment }
      else .error .relativeToPlainPath

def clean (t : Text) : Text :=
  let isEdge (c : Char) : Bool := c.toNat ≤ 0x20
  ((t.dropWhile isEdge).reverse.dropWhile isEdge).reverse

/-- Reads an address, relative to a base if one is given. Breaks in it are dropped, but those in
the path of a file may set off its drive. -/
def read? (base : Option Url) (input : Text) : Except Error Url :=
  let (path, fragment) := splitAt '#' (clean input)
  let (path, query) := splitAt '?' path
  let t := unbroken path
  let fragment := fragment.map fun text => Percent.encode Percent.fragment (unbroken text)
  let encodeQuery (special : Bool) : Option Text :=
    let reserved := if special then Percent.specialQuery else Percent.query
    query.map fun text => Percent.encode reserved (unbroken text)
  match scheme? t with
  | none => schemeless? base t (encodeQuery (base.any (isSpecial ·.scheme))) fragment
  | some (scheme, rest) =>
    if scheme = fileScheme then
      file? ((path.dropWhile (· != ':')).drop 1) (encodeQuery true) fragment
    else if isSpecial scheme then
      let slashes := rest.takeWhile (isSlash true)
      if slashes.length < 2 && base.any (·.scheme = scheme) then
        schemeless? base rest (encodeQuery true) fragment
      else withAuthority? scheme (rest.drop slashes.length) (encodeQuery true) fragment
    else
      match rest with
      | '/' :: '/' :: rest => withAuthority? scheme rest (encodeQuery false) fragment
      | '/' :: rest =>
        .ok ⟨scheme, none, .segments (walk [] (segmentsOf false rest)), encodeQuery false, fragment⟩
      | _ => .ok ⟨scheme, none, .plain (Percent.encode [] rest), encodeQuery false, fragment⟩

def ofText? (t : Text) : Except Error Url := read? none t

def join (base : Url) (t : Text) : Except Error Url := read? (some base) t

end Pagecraft.Url
