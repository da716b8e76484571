import Mathlib.Data.List.Forall2
import Pagecraft.Content.Path
import Pagecraft.Proofs.Text.Cut
import Pagecraft.Proofs.Text.Decimal

/-! The segments of a path: a key without brackets, and positions in brackets behind it. A text is
read as a segment exactly if it has this form. -/
namespace Pagecraft

namespace Text

/-- That a text gives a position: the digits of a number of 64 bits, perhaps behind a plus sign. -/
def Denotes (t : Text) (position : Nat) : Prop :=
  ∃ digits : Text, (t = digits ∨ t = '+' :: digits) ∧ digits ≠ [] ∧ (∀ c ∈ digits, c.isDigit) ∧
    Nat.ofDigitChars 10 digits 0 = position ∧ position < UInt64.size

theorem toNat?_eq_some_iff {t : Text} {n : Nat} :
    toNat? t = some n ↔
      t ≠ [] ∧ (∀ c ∈ t, c.isDigit) ∧ Nat.ofDigitChars 10 t 0 = n := by
  simp [toNat?, and_assoc]

theorem toIndex?_eq_some_iff {t : Text} {position : Nat} :
    t.toIndex? = some position ↔ t.Denotes position := by
  unfold toIndex?
  simp only [Option.filter_eq_some_iff, toNat?_eq_some_iff, decide_eq_true_eq, and_assoc]
  constructor
  · intro read
    split at read
    · exact ⟨_, .inr rfl, read⟩
    · exact ⟨t, .inl rfl, read⟩
  · rintro ⟨digits, rfl | rfl, read⟩
    · split
      · -- a plus sign is no digit
        exact absurd (read.2.1 '+' List.mem_cons_self) (by decide)
      · exact read
    · exact read

theorem denotes_ofNat {n : Nat} (h : n < UInt64.size) : (ofNat n).Denotes n :=
  ⟨ofNat n, .inl rfl, ofNat_ne_nil n, fun _ => isDigit_of_mem_ofNat,
    Nat.ofDigitChars_ten_toDigits, h⟩

theorem Denotes.not_mem_of_trim {t : Text} {position : Nat} (h : t.trim.Denotes position) {c : Char}
    (noBlank : ¬isBlank c) (noDigit : ¬c.isDigit) (noPlus : c ≠ '+') : c ∉ t := by
  intro mem
  have kept : c ∈ t.trim := mem_trim mem noBlank
  obtain ⟨digits, eq | eq, _, all, _⟩ := h
  · rw [eq] at kept
    exact noDigit (all c kept)
  · rw [eq] at kept
    rcases List.mem_cons.mp kept with plus | digit
    · exact noPlus plus
    · exact noDigit (all c digit)

end Text

namespace Segment

def bracketed (inside : Text) : Text := '[' :: (inside ++ [']'])

/-- That a segment is a key without a bracket, followed by positions in brackets. -/
def Spells (segment key : Text) (positions : List Nat) : Prop :=
  '[' ∉ key ∧ ∃ groups : List Text, segment = key ++ groups.flatMap bracketed ∧
    List.Forall₂ (fun inside position => inside.trim.Denotes position) groups positions

theorem position?_eq_some_iff {group : Text} {position : Nat} :
    position? group = some position ↔
      ∃ inside, group = '[' :: inside ∧ (Text.trim inside).Denotes position := by
  unfold position?
  split
  case h_1 inside => simp [Text.toIndex?_eq_some_iff]
  case h_2 other =>
    constructor
    · nofun
    · rintro ⟨inside, rfl, _⟩
      exact absurd rfl (other inside)

theorem positions?_append_cons {group : Text} (h : ']' ∉ group) (rest : Text) :
    positions? (group ++ ']' :: rest) =
      (position? group).bind fun position => (positions? rest).map (position :: ·) := by
  have cut : Text.pieces ']' (group ++ ']' :: rest) = group :: Text.pieces ']' rest :=
    List.splitOn_append_cons_self_of_not_mem h rest
  have more : Text.pieces ']' rest ≠ [] := List.splitOn_ne_nil ']' rest
  have last : (group :: Text.pieces ']' rest).getLastD [] = (Text.pieces ']' rest).getLastD [] := by
    obtain ⟨first, others, pieces⟩ := List.exists_cons_of_ne_nil more
    rw [pieces]
    rfl
  simp only [positions?, cut, last, List.dropLast_cons_of_ne_nil more, List.mapM_cons]
  split
  · cases position? group <;> cases (Text.pieces ']' rest).dropLast.mapM position? <;> rfl
  · cases position? group <;> rfl

theorem positions?_eq_some_iff {t : Text} {positions : List Nat} :
    positions? t = some positions ↔
      ∃ groups : List Text, t = groups.flatMap bracketed ∧
        List.Forall₂ (fun inside position => inside.trim.Denotes position) groups positions := by
  constructor
  · intro read
    -- on the length, for a group takes more than one character away
    induction len : t.length using Nat.strongRecOn generalizing t positions with
    | _ n ih =>
      subst len
      by_cases closed : ']' ∈ t
      · obtain ⟨group, rest, rfl, absent⟩ := List.eq_append_cons_of_mem closed
        rw [positions?_append_cons absent] at read
        obtain ⟨position, first, read⟩ := Option.bind_eq_some_iff.mp read
        obtain ⟨others, later, rfl⟩ := Option.map_eq_some_iff.mp read
        obtain ⟨inside, rfl, denotes⟩ := position?_eq_some_iff.mp first
        have shorter : rest.length < ('[' :: inside ++ ']' :: rest).length := by
          simp only [List.length_append, List.length_cons]
          omega
        obtain ⟨groups, rfl, all⟩ := ih rest.length shorter later rfl
        refine ⟨inside :: groups, ?_, .cons denotes all⟩
        simp [bracketed]
      · have whole : t.pieces ']' = [t] := List.splitOn_eq_singleton closed
        rw [positions?, whole] at read
        cases t with
        | nil =>
          cases read
          exact ⟨[], rfl, .nil⟩
        | cons c t => cases read
  · rintro ⟨groups, rfl, all⟩
    induction all with
    | nil => rfl
    | @cons inside position groups positions denotes _ ih =>
      have absent : ']' ∉ '[' :: inside := by
        rw [List.mem_cons, not_or]
        exact ⟨by decide, denotes.not_mem_of_trim (by decide) (by decide) (by decide)⟩
      have first : position? ('[' :: inside) = some position :=
        position?_eq_some_iff.mpr ⟨inside, rfl, denotes⟩
      have front : (inside :: groups).flatMap bracketed =
          ('[' :: inside) ++ ']' :: groups.flatMap bracketed := by simp [bracketed]
      rw [front, positions?_append_cons absent, first, ih]
      rfl

theorem isEmpty_flatMap_bracketed {groups : List Text} {positions : List Nat}
    {reads : Text → Nat → Prop} (all : List.Forall₂ reads groups positions) :
    (groups.flatMap bracketed).isEmpty = positions.isEmpty := by
  cases all with
  | nil | cons => rfl

/-- What is read from a segment. An empty key counts only if no bracket follows it. -/
def ofParts (key : Text) (positions : List Nat) : Segment :=
  ⟨if key.isEmpty && !positions.isEmpty then none else some key, positions⟩

theorem ofText?_eq_some_iff {t : Text} {segment : Segment} :
    ofText? t = some segment ↔
      ∃ key positions, Spells t key positions ∧ ofParts key positions = segment := by
  constructor
  · intro read
    obtain ⟨positions, grouped, rfl⟩ := Option.map_eq_some_iff.mp read
    obtain ⟨groups, eq, all⟩ := positions?_eq_some_iff.mp grouped
    refine ⟨t.takeWhile (· != '['), positions, ⟨?_, groups, ?_, all⟩, ?_⟩
    · intro mem
      simpa using List.mem_takeWhile_imp mem
    · rw [← eq, List.takeWhile_append_dropWhile]
    · rw [eq, isEmpty_flatMap_bracketed all, ofParts]
  · rintro ⟨key, positions, ⟨noBracket, groups, rfl, all⟩, rfl⟩
    have inKey : ∀ c ∈ key, (c != '[') = true := by
      intro c mem
      simpa using ne_of_mem_of_not_mem mem noBracket
    -- the key ends where the first bracket opens
    have taken : (groups.flatMap bracketed).takeWhile (· != '[') = [] ∧
        (groups.flatMap bracketed).dropWhile (· != '[') = groups.flatMap bracketed := by
      cases groups with
      | nil => exact ⟨rfl, rfl⟩
      | cons inside groups => exact ⟨rfl, rfl⟩
    have read : positions? (groups.flatMap bracketed) = some positions :=
      positions?_eq_some_iff.mpr ⟨groups, rfl, all⟩
    rw [ofText?, List.takeWhile_append_of_pos inKey, List.dropWhile_append_of_pos inKey, taken.1,
      taken.2, List.append_nil, read, isEmpty_flatMap_bracketed all]
    rfl

theorem spells_key {key : Text} (noBracket : '[' ∉ key) : Spells key key [] :=
  ⟨noBracket, [], (List.append_nil key).symm, .nil⟩

theorem Spells.append_bracketed {t key inside : Text} {positions : List Nat} {position : Nat}
    (spells : Spells t key positions) (denotes : inside.trim.Denotes position) :
    Spells (t ++ bracketed inside) key (positions ++ [position]) := by
  obtain ⟨noBracket, groups, rfl, all⟩ := spells
  refine ⟨noBracket, groups ++ [inside], ?_, ?_⟩
  · rw [List.flatMap_append, List.flatMap_singleton, List.append_assoc]
  · exact List.rel_append all (.cons denotes .nil)

end Segment

end Pagecraft
