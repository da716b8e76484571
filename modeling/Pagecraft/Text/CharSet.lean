import Pagecraft.Text.Blank
import Pagecraft.Text.Hex

/-! Sets of characters, given by tables of their codes. -/
namespace Pagecraft

/-- A set of characters as ranges of codes, both ends included. -/
structure CharSet where
  ranges : List (Nat × Nat)
deriving DecidableEq, Repr

namespace CharSet

def entries (table : String) : List Text :=
  (table.toList.splitOnP isBlank).filter (!List.isEmpty ·)

/-- A range is `first-last`, and a single code stands for itself. Codes are hexadecimal. -/
def range (entry : Text) : Nat × Nat :=
  let (first, last) := (Text.cut? ['-'] entry).getD (entry, entry)
  (Hex.number first, Hex.number last)

def ofString (table : String) : CharSet := ⟨(entries table).map range⟩

def contains (s : CharSet) (c : Char) : Bool :=
  s.ranges.any fun (first, last) => first ≤ c.toNat && c.toNat ≤ last

end CharSet
end Pagecraft
