import Pagecraft.Number.Binary64

/-! JSON values. The members of an object are a list in the order in which they were
given; `Json.Canonical` has the form in which that order is forgotten. -/
namespace Pagecraft

/-- A number is an integer of at most 64 bits or a double. -/
inductive Json.Number where
  | integer (value : Int)
  | float (value : Binary64)
deriving DecidableEq, Repr

inductive Json where
  | null
  | bool (value : Bool)
  | number (value : Json.Number)
  | string (value : Text)
  | array (items : List Json)
  | object (members : List (Text × Json))
deriving Repr

namespace Json

def ofString (s : String) : Json := .string s.toList

def ofNat (n : Nat) : Json := .number (.integer n)

def record (members : List (String × Json)) : Json :=
  .object (members.map fun (name, value) => (name.toList, value))

def strings (texts : List Text) : Json := .array (texts.map .string)

def nullable (f : α → Json) : Option α → Json
  | none => .null
  | some a => f a

end Json
end Pagecraft
