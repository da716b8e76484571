import Pagecraft.Json.Reader

/-! Reading a record with fixed fields from written JSON. A record is an object or the list of
its fields in their order; names that it does not know are skipped, whatever stands there. -/
namespace Pagecraft.Json.Written

def member? (name : Text) : List (Text × Written) → Option Written
  | [] => none
  | (other, value) :: rest => if other = name then some value else member? name rest

def atMostOnce (members : List (Text × Written)) (name : Text) : Bool :=
  (members.filter fun member => member.1 = name).length ≤ 1

/-- The values of the named fields, `none` where one is left out. A known name may not occur
twice, and a list may not be longer than the record. -/
def fields? (names : List Text) : Written → Option (List (Option Written))
  | .object members => do
    let members ← members.mapM fun (name, value) => (Glyph.text? name).map fun n => (n, value)
    if names.all (atMostOnce members) then some (names.map (member? · members)) else none
  | .array items =>
    if items.length ≤ names.length then
      some (items.map some ++ List.replicate (names.length - items.length) none)
    else none
  | _ => none

def text? : Written → Option Text
  | .string glyphs => Glyph.text? glyphs
  | _ => none

def textOrNull? : Written → Option (Option Text)
  | .null => some none
  | value => value.text?.map some

def word64? : Written → Option UInt64
  | .number numeral =>
    match numeral.value? with
    | some (.integer (.ofNat n)) => if n < UInt64.size then some (UInt64.ofNat n) else none
    | _ => none
  | _ => none

def list? (read? : Written → Option α) : Written → Option (List α)
  | .array items => items.mapM read?
  | _ => none

/-- A field that may be left out, but not be of another kind. -/
def orElse (read? : Written → Option α) (default : α) : Option Written → Option α
  | none => some default
  | some value => read? value

end Pagecraft.Json.Written
