/-! Texts and byte strings, how a text is cut at marks, and decimal numerals.
A text is a plain list of characters, so that every rule about it is a recursion
on its characters. -/
namespace Pagecraft

abbrev Text := List Char

abbrev Bytes := List UInt8

namespace Text

def dropMark? : (mark t : Text) → Option Text
  | [], t => some t
  | _ :: _, [] => none
  | m :: mark, c :: t => if m = c then dropMark? mark t else none

/-- The text before the first `mark` in a text and the text after that mark. -/
def cut? (mark : Text) : Text → Option (Text × Text)
  | [] => if mark.isEmpty then some ([], []) else none
  | c :: t =>
    match dropMark? mark (c :: t) with
    | some rest => some ([], rest)
    | none => (cut? mark t).map fun (before, after) => (c :: before, after)

def pieces (separator : Char) (t : Text) : List Text := t.splitOn separator

def lastPiece (separator : Char) (t : Text) : Text := (t.pieces separator).getLastD []

def cutLast? (separator : Char) (t : Text) : Option (Text × Text) :=
  (cut? [separator] t.reverse).map fun (after, before) => (before.reverse, after.reverse)

def swap (old new : Char) (t : Text) : Text := t.map fun c => if c = old then new else c

def ofNat (n : Nat) : Text := Nat.toDigits 10 n

def toNat? (t : Text) : Option Nat :=
  if !t.isEmpty && t.all Char.isDigit then some (Nat.ofDigitChars 10 t 0) else none

def ofInt : Int → Text
  | .ofNat n => ofNat n
  | .negSucc n => '-' :: ofNat (n + 1)

def ofNatPadded (width n : Nat) : Text :=
  let digits := ofNat n
  List.replicate (width - digits.length) '0' ++ digits

/-- Positions are read as unsigned numbers of 64 bits, with an optional `+` before the digits. -/
def toIndex? (t : Text) : Option Nat :=
  let digits := match t with
    | '+' :: rest => rest
    | _ => t
  (toNat? digits).filter (· < UInt64.size)

def lower (t : Text) : Text := t.map Char.toLower

theorem dropMark?_eq_some_iff {mark t rest : Text} :
    dropMark? mark t = some rest ↔ t = mark ++ rest := by
  fun_induction dropMark? mark t with
  | case1 => simp
  | case2 => simp
  | case3 m mark t ih => simpa using ih
  | case4 m mark c t ne => simp [Ne.symm ne]

theorem eq_append_of_cut? {mark t before after : Text} (h : cut? mark t = some (before, after)) :
    t = before ++ mark ++ after := by
  induction t generalizing before with
  | nil => cases mark <;> simp_all [cut?]
  | cons c t ih =>
    simp only [cut?] at h
    split at h
    next rest found =>
      cases h
      simpa using dropMark?_eq_some_iff.mp found
    next =>
      obtain ⟨⟨b, a⟩, hb, heq⟩ := Option.map_eq_some_iff.mp h
      cases heq
      simp [ih hb]

end Text
end Pagecraft
