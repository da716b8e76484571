import Pagecraft.Text.Basic

/-! Asset paths: texts that name a binary file instead of saying something. -/
namespace Pagecraft.Asset

def pathMark : Text := "/assets/".toList

def isPath (t : Text) : Bool := (Text.dropMark? pathMark t).isSome

def relative (t : Text) : Text := if isPath t then t.drop 1 else t

theorem isPath_iff {t : Text} : isPath t ↔ ∃ sub, t = pathMark ++ sub := by
  rw [isPath, Option.isSome_iff_exists]
  simp only [Text.dropMark?_eq_some_iff]

@[simp] theorem relative_pathMark_append (sub : Text) :
    relative (pathMark ++ sub) = "assets/".toList ++ sub := by
  rw [relative, if_pos (isPath_iff.mpr ⟨sub, rfl⟩)]
  rfl

theorem relative_of_not_isPath {t : Text} (h : ¬isPath t) : relative t = t := by
  rw [relative, if_neg h]

end Pagecraft.Asset
