import Pagecraft.Text.Basic

/-! The marks of the template language: markers `{{body}}`, and blocks `{{#name}}body{{/name}}`
closed by the nearest close tag of the same name. -/
namespace Pagecraft.Template

/-- The body of the marker that a text begins with, and the text after the marker. A body is not
empty and holds no `}`. -/
def marker? : Text → Option (Text × Text)
  | '{' :: '{' :: inner =>
    match inner.takeWhile (· != '}'), inner.dropWhile (· != '}') with
    | c :: body, '}' :: '}' :: rest => some (c :: body, rest)
    | _, _ => none
  | _ => none

def marker (body : Text) : Text := '{' :: '{' :: body ++ ['}', '}']

def openTag (name : Text) : Text := marker ('#' :: name)

def closeTag (name : Text) : Text := marker ('/' :: name)

def isTag : Text → Bool
  | '#' :: _ | '/' :: _ => true
  | _ => false

structure Block where
  name : Text
  body : Text
  rest : Text
deriving DecidableEq, Repr

def block? (accept : Text → Bool) (t : Text) : Option Block := do
  let (tag, after) ← marker? t
  let name ← Text.dropMark? ['#'] tag
  if accept name then
    let (body, rest) ← Text.cut? (closeTag name) after
    return ⟨name, body, rest⟩
  else none

def isWordChar (c : Char) : Bool := c.isAlphanum || c == '_'

/-- Names of loops: one or more ASCII letters, digits and underscores. -/
def isWord (name : Text) : Bool := !name.isEmpty && name.all isWordChar

def conditionScope : Text := "socialLinks".toList

def isCondition (name : Text) : Bool :=
  match Text.dropMark? (conditionScope ++ ['.']) name with
  | some field => isWord field
  | none => false

end Pagecraft.Template
