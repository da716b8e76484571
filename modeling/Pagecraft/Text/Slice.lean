import Pagecraft.Text.Utf8

/-! Slices of a text by the byte offsets of their ends in its UTF-8 form. A slice can be taken only if
its ends are in order and in the text, and neither of them is inside of a character. -/
namespace Pagecraft

namespace Text

/-- The text before a byte offset and the text from it on. There is none if the offset is beyond the
end or inside of a character. -/
def cutAt? : (offset : Nat) → (t : Text) → Option (Text × Text)
  | 0, t => some ([], t)
  | _ + 1, [] => none
  | offset + 1, c :: t =>
    if c.utf8Size ≤ offset + 1 then
      (cutAt? (offset + 1 - c.utf8Size) t).map fun (front, back) => (c :: front, back)
    else none

def find? (mark t : Text) : Option Nat := (cut? mark t).map fun (before, _) => before.byteCount

end Text

structure SliceFault where
  start : Nat
  stop : Nat
deriving DecidableEq, Repr

/-- Work that takes slices. It fails at the first slice that cannot be taken, and if it does not end it
has no outcome at all. -/
abbrev Sliced (α : Type) := ExceptT SliceFault Option α

namespace Sliced

def slice (t : Text) (start stop : Nat) : Sliced Text :=
  match (t.cutAt? stop).bind fun (front, _) => front.cutAt? start with
  | some (_, part) => pure part
  | none => throw ⟨start, stop⟩

def sliceFrom (t : Text) (start : Nat) : Sliced Text := slice t start t.byteCount

end Sliced
end Pagecraft
