import Mathlib.Data.List.Basic
import Pagecraft.Json.Basic

/-! JSON values as trees. Of the values that have a text of their own, numbers are integers of at
most 64 bits and the members of an object have different names. -/
namespace Pagecraft.Json

@[elab_as_elim]
theorem induct {motive : Json → Prop} (null : motive .null)
    (bool : ∀ value, motive (.bool value)) (number : ∀ value, motive (.number value))
    (string : ∀ value, motive (.string value))
    (array : ∀ items, (∀ item ∈ items, motive item) → motive (.array items))
    (object : ∀ members : List (Text × Json), (∀ member ∈ members, motive member.2) →
      motive (.object members)) :
    (value : Json) → motive value
  | .null => null
  | .bool value => bool value
  | .number value => number value
  | .string value => string value
  | .array items => array items fun item _ =>
      induct null bool number string array object item
  | .object members => object members fun (_, value) _ =>
      induct null bool number string array object value
termination_by value => sizeOf value
decreasing_by
  · have := List.sizeOf_lt_of_mem ‹_ ∈ items›
    simp only [Json.array.sizeOf_spec]
    omega
  · have := List.sizeOf_lt_of_mem ‹_ ∈ members›
    simp only [Json.object.sizeOf_spec, Prod.mk.sizeOf_spec] at this ⊢
    omega

/-- The integers that fit a signed or an unsigned word of 64 bits: from `-2 ^ 63` to below
`2 ^ 64`. -/
def Number.IsWord : Number → Prop
  | .integer value => -9223372036854775808 ≤ value ∧ value < 18446744073709551616
  | .float _ => False

inductive Integral : Json → Prop
  | null : Integral .null
  | bool (value : Bool) : Integral (.bool value)
  | number {value : Number} (word : value.IsWord) : Integral (.number value)
  | string (value : Text) : Integral (.string value)
  | array {items : List Json} (all : ∀ item ∈ items, Integral item) : Integral (.array items)
  | object {members : List (Text × Json)} (all : ∀ member ∈ members, Integral member.2) :
    Integral (.object members)

attribute [simp] Integral.null Integral.bool Integral.string

@[simp] theorem integral_number {value : Number} : Integral (.number value) ↔ value.IsWord :=
  ⟨fun | .number word => word, .number⟩

@[simp] theorem integral_array {items : List Json} :
    Integral (.array items) ↔ ∀ item ∈ items, Integral item :=
  ⟨fun | .array all => all, .array⟩

@[simp] theorem integral_object {members : List (Text × Json)} :
    Integral (.object members) ↔ ∀ member ∈ members, Integral member.2 :=
  ⟨fun | .object all => all, .object⟩

inductive Distinct : Json → Prop
  | null : Distinct .null
  | bool (value : Bool) : Distinct (.bool value)
  | number (value : Number) : Distinct (.number value)
  | string (value : Text) : Distinct (.string value)
  | array {items : List Json} (all : ∀ item ∈ items, Distinct item) : Distinct (.array items)
  | object {members : List (Text × Json)} (names : (members.map Prod.fst).Nodup)
    (all : ∀ member ∈ members, Distinct member.2) : Distinct (.object members)

attribute [simp] Distinct.null Distinct.bool Distinct.number Distinct.string

@[simp] theorem distinct_array {items : List Json} :
    Distinct (.array items) ↔ ∀ item ∈ items, Distinct item :=
  ⟨fun | .array all => all, .array⟩

@[simp] theorem distinct_object {members : List (Text × Json)} :
    Distinct (.object members) ↔
      (members.map Prod.fst).Nodup ∧ ∀ member ∈ members, Distinct member.2 :=
  ⟨fun | .object names all => ⟨names, all⟩, fun ⟨names, all⟩ => .object names all⟩

mutual

def depth : Json → Nat
  | .array items => depthOfItems items + 1
  | .object members => depthOfMembers members + 1
  | .null | .bool _ | .number _ | .string _ => 0

def depthOfItems : List Json → Nat
  | [] => 0
  | item :: items => max (depth item) (depthOfItems items)

def depthOfMembers : List (Text × Json) → Nat
  | [] => 0
  | (_, value) :: members => max (depth value) (depthOfMembers members)

end

end Pagecraft.Json
