import Pagecraft.Json.Canonical
import Pagecraft.Json.Reader

/-! The content tree of a page: texts and other scalars in lists and groups of named fields.
`Node.traverse` is the one way in which the text leaves are visited and replaced. -/
namespace Pagecraft

inductive Node where
  | null
  | flag (value : Bool)
  | number (value : Json.Number)
  | text (value : Text)
  | list (items : List Node)
  | group (fields : List (Text × Node))
deriving Repr

namespace Node

def empty : Node := .group []

def text? : Node → Option Text
  | .text value => some value
  | .number value => some value.text
  | .flag true => some "true".toList
  | .flag false => some "false".toList
  | .null | .list _ | .group _ => none

def asText? : Node → Option Text
  | .text value => some value
  | _ => none

def items? : Node → Option (List Node)
  | .list items => some items
  | _ => none

def isContainer : Node → Bool
  | .list _ | .group _ => true
  | _ => false

def field? (name : Text) : Node → Option Node
  | .group fields => Keyed.get? name fields
  | _ => none

def item? (position : Nat) : Node → Option Node
  | .list items => items[position]?
  | _ => none

mutual

/-- The text leaves in the order of a visit: items by position, fields in their order. -/
def leaves : Node → List Text
  | .text value => [value]
  | .list items => leavesOfItems items
  | .group fields => leavesOfFields fields
  | .null | .flag _ | .number _ => []

def leavesOfItems : List Node → List Text
  | [] => []
  | item :: items => leaves item ++ leavesOfItems items

def leavesOfFields : List (Text × Node) → List Text
  | [] => []
  | (_, value) :: fields => leaves value ++ leavesOfFields fields

end

mutual

/-- Rebuilds the tree, each text leaf becoming the answer of `f` or staying if there is none. -/
def mapLeaves (f : Text → Option Text) : Node → Node
  | .text value => .text ((f value).getD value)
  | .list items => .list (mapLeavesOfItems f items)
  | .group fields => .group (mapLeavesOfFields f fields)
  | .null => .null
  | .flag value => .flag value
  | .number value => .number value

def mapLeavesOfItems (f : Text → Option Text) : List Node → List Node
  | [] => []
  | item :: items => mapLeaves f item :: mapLeavesOfItems f items

def mapLeavesOfFields (f : Text → Option Text) : List (Text × Node) → List (Text × Node)
  | [] => []
  | (name, value) :: fields => (name, mapLeaves f value) :: mapLeavesOfFields f fields

end

mutual

def traverse [Monad m] (f : Text → m (Option Text)) : Node → m Node
  | .text value => do return .text ((← f value).getD value)
  | .list items => do return .list (← traverseItems f items)
  | .group fields => do return .group (← traverseFields f fields)
  | .null => pure .null
  | .flag value => pure (.flag value)
  | .number value => pure (.number value)

def traverseItems [Monad m] (f : Text → m (Option Text)) : List Node → m (List Node)
  | [] => pure []
  | item :: items => do
    let item ← traverse f item
    let items ← traverseItems f items
    return item :: items

def traverseFields [Monad m] (f : Text → m (Option Text)) :
    List (Text × Node) → m (List (Text × Node))
  | [] => pure []
  | (name, value) :: fields => do
    let value ← traverse f value
    let fields ← traverseFields f fields
    return (name, value) :: fields

end

mutual

def visit [Monad m] (f : Text → m Unit) : Node → m Unit
  | .text value => f value
  | .list items => visitItems f items
  | .group fields => visitFields f fields
  | .null | .flag _ | .number _ => pure ()

def visitItems [Monad m] (f : Text → m Unit) : List Node → m Unit
  | [] => pure ()
  | item :: items => do
    visit f item
    visitItems f items

def visitFields [Monad m] (f : Text → m Unit) : List (Text × Node) → m Unit
  | [] => pure ()
  | (_, value) :: fields => do
    visit f value
    visitFields f fields

end

mutual

/-- The content that a JSON value is. Fields are sorted, and the last one of each name counts. -/
def ofJson : Json → Node
  | .null => .null
  | .bool value => .flag value
  | .number value => .number value
  | .string value => .text value
  | .array items => .list (ofJsonItems items)
  | .object members => .group (Keyed.ofList (ofJsonMembers members))

def ofJsonItems : List Json → List Node
  | [] => []
  | item :: items => ofJson item :: ofJsonItems items

def ofJsonMembers : List (Text × Json) → List (Text × Node)
  | [] => []
  | (name, value) :: members => (name, ofJson value) :: ofJsonMembers members

end

mutual

def toJson : Node → Json
  | .null => .null
  | .flag value => .bool value
  | .number value => .number value
  | .text value => .string value
  | .list items => .array (toJsonItems items)
  | .group fields => .object (toJsonFields fields)

def toJsonItems : List Node → List Json
  | [] => []
  | item :: items => toJson item :: toJsonItems items

def toJsonFields : List (Text × Node) → List (Text × Json)
  | [] => []
  | (name, value) :: fields => (name, toJson value) :: toJsonFields fields

end

def ofText? (t : Text) : Option Node := (Json.ofText? t).map ofJson

end Node
end Pagecraft
