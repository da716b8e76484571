import Pagecraft.Content.Node
import Pagecraft.Text.Blank

/-! Dotted paths such as `hero.headline`, `features[0].title` or `faq.1.q`. -/
namespace Pagecraft

/-- One step of a path: a key, then positions in brackets. The key is left out where a segment
has brackets only. -/
structure Segment where
  key : Option Text
  positions : List Nat
deriving DecidableEq, Repr

namespace Segment

def position? : Text → Option Nat
  | '[' :: inside => (Text.trim inside).toIndex?
  | _ => none

def positions? (groups : Text) : Option (List Nat) :=
  let parts := groups.pieces ']'
  if (parts.getLastD []).isEmpty then parts.dropLast.mapM position? else none

def ofText? (segment : Text) : Option Segment :=
  let key := segment.takeWhile (· != '[')
  let groups := segment.dropWhile (· != '[')
  (positions? groups).map fun positions =>
    ⟨if key.isEmpty && !groups.isEmpty then none else some key, positions⟩

end Segment

namespace Node

def child? (key : Text) : Node → Option Node
  | .group fields => Keyed.get? key fields
  | .list items => key.toIndex?.bind fun position => items[position]?
  | _ => none

def step? (segment : Segment) (node : Node) : Option Node := do
  let start ← match segment.key with
    | none => some node
    | some key => node.child? key
  segment.positions.foldlM (fun node position => node.item? position) start

/-- The node that a path addresses; `.` is the node itself. -/
def lookup? (path : Text) (node : Node) : Option Node :=
  if path = ['.'] then some node
  else (path.pieces '.').foldlM (fun node segment => (Segment.ofText? segment).bind node.step?) node

def lookupText? (path : Text) (node : Node) : Option Text := (node.lookup? path).bind text?

end Node
end Pagecraft
