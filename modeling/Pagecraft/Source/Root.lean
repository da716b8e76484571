import Pagecraft.Source.Directory
import Pagecraft.Source.Site

/-! From the name of a root to its source. -/
namespace Pagecraft.Source

def isAddress (root : Text) : Bool :=
  (Text.dropMark? "http://".toList root).isSome || (Text.dropMark? "https://".toList root).isSome

def ofRoot [Monad m] (files : Files m) (transport : Transport m) (root : Text) :
    Except SourceError (Source m) :=
  if isAddress root then
    match Url.ofText? root with
    | .ok url => .ok (site transport url)
    | .error cause => .error (.invalidUrl cause)
  else .ok (directory files root)

end Pagecraft.Source
