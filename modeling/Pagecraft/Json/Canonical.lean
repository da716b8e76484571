import Pagecraft.Json.Printer
import Pagecraft.Text.Keyed

/-! The canonical form of a value: members sorted by name at every depth, the last one of each
name, and no space in its text. -/
namespace Pagecraft.Json

mutual

def canonical : Json → Json
  | .array items => .array (canonicalItems items)
  | .object members => .object (Keyed.ofList (canonicalMembers members))
  | .null => .null
  | .bool value => .bool value
  | .number value => .number value
  | .string value => .string value

def canonicalItems : List Json → List Json
  | [] => []
  | item :: items => canonical item :: canonicalItems items

def canonicalMembers : List (Text × Json) → List (Text × Json)
  | [] => []
  | (name, value) :: members => (name, canonical value) :: canonicalMembers members

end

def canonicalText (value : Json) : Text := value.canonical.compact

end Pagecraft.Json
