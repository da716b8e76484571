import Pagecraft.Content.Path
import Pagecraft.Text.Slice

/-! Looking up a path by slices: a segment is cut where its first bracket is found, and then group by
group where the closing brackets are. -/
namespace Pagecraft.Sliced

/-- Reads the group that a text begins with, and goes down by its position. It is over if there are no
more groups, or if they lead nowhere. -/
def group : Text × Node → Sliced (Text × Node ⊕ Option Node)
  | (groups, node) => do
    if groups.isEmpty then return .inr (some node)
    else
      match Text.find? [']'] groups with
      | none => return .inr none
      | some close =>
        if (Text.dropMark? ['['] groups).isSome then
          let inside ← slice groups 1 close
          match (Text.trim inside).toIndex? with
          | none => return .inr none
          | some position =>
            match node.item? position with
            | none => return .inr none
            | some next =>
              let rest ← sliceFrom groups (close + 1)
              return .inl (rest, next)
        else return .inr none

def descend (groups : Text) (node : Node) : Sliced (Option Node) := repeatM group (groups, node)

/-- The key of a segment, and the text from its first bracket on. -/
def parts (segment : Text) : Sliced (Text × Text) :=
  match Text.find? ['['] segment with
  | some opening => do
    let key ← slice segment 0 opening
    let groups ← sliceFrom segment opening
    return (key, groups)
  | none => return (segment, [])

def step (segment : Text) (node : Node) : Sliced (Option Node) := do
  let (key, groups) ← parts segment
  if key.isEmpty && !groups.isEmpty then descend groups node
  else
    match node.child? key with
    | some start => descend groups start
    | none => return none

def walk : List Text → Node → Sliced (Option Node)
  | [], node => return some node
  | segment :: segments, node => do
    match ← step segment node with
    | some next => walk segments next
    | none => return none

def lookup (path : Text) (node : Node) : Sliced (Option Node) :=
  if path = ['.'] then return some node else walk (path.pieces '.') node

def lookupText (path : Text) (node : Node) : Sliced (Option Text) := do
  return (← lookup path node).bind Node.text?

end Pagecraft.Sliced
