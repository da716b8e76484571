import Pagecraft.Text.Basic

/-! The blank characters (Unicode's `White_Space` property) and trimming by them. -/
namespace Pagecraft

def Blank.table : List (Nat × Nat) :=
  [(0x09, 0x0d), (0x20, 0x20), (0x85, 0x85), (0xa0, 0xa0), (0x1680, 0x1680), (0x2000, 0x200a),
    (0x2028, 0x2029), (0x202f, 0x202f), (0x205f, 0x205f), (0x3000, 0x3000)]

def isBlank (c : Char) : Bool :=
  Blank.table.any fun (first, last) => first ≤ c.toNat && c.toNat ≤ last

namespace Text

def trimStart (t : Text) : Text := t.dropWhile isBlank

def trimEnd (t : Text) : Text := (t.reverse.dropWhile isBlank).reverse

def trim (t : Text) : Text := t.trimStart.trimEnd

def allBlank (t : Text) : Bool := t.all isBlank

end Text

private theorem dropWhile_isBlank_eq_nil {t : Text} :
    t.dropWhile isBlank = [] ↔ ∀ c ∈ t, isBlank c := by
  induction t with
  | nil => simp
  | cons c t ih => by_cases h : isBlank c <;> simp [h, ih]

theorem Text.trim_eq_nil_iff {t : Text} : t.trim = [] ↔ t.allBlank := by
  rw [Text.trim, Text.trimEnd, List.reverse_eq_nil_iff, dropWhile_isBlank_eq_nil, Text.allBlank,
    List.all_eq_true, Text.trimStart]
  simp only [List.mem_reverse]
  constructor
  · intro h
    have : t.dropWhile isBlank = [] := by
      cases rest : t.dropWhile isBlank with
      | nil => rfl
      | cons c r =>
        have shown := List.head?_dropWhile_not isBlank t
        simp only [rest, List.head?_cons] at shown
        simp [h c (by simp [rest])] at shown
    exact dropWhile_isBlank_eq_nil.mp this
  · exact fun h c hc => h c ((List.dropWhile_sublist isBlank).subset hc)

end Pagecraft
