import Mathlib.Data.List.TakeWhile
import Pagecraft.Text.Blank

/-! Cutting a text at a single character, and trimming it. A cut falls at the first such character,
and no character but a blank is trimmed. -/
namespace Pagecraft.Text

theorem cut?_of_not_mem {c : Char} {t : Text} (h : c ∉ t) : cut? [c] t = none := by
  induction t with
  | nil => rfl
  | cons d t ih =>
    have ne : c ≠ d := fun eq => h (by simp [eq])
    have rest : c ∉ t := fun mem => h (List.mem_cons_of_mem d mem)
    simp [cut?, dropMark?, ne, ih rest]

theorem cut?_append_cons {c : Char} {before : Text} (h : c ∉ before) (after : Text) :
    cut? [c] (before ++ c :: after) = some (before, after) := by
  induction before with
  | nil => simp [cut?, dropMark?]
  | cons d before ih =>
    have ne : c ≠ d := fun eq => h (by simp [eq])
    have rest : c ∉ before := fun mem => h (List.mem_cons_of_mem d mem)
    simp [cut?, dropMark?, ne, ih rest]

theorem cut?_append {c : Char} {front : Text} (h : c ∉ front) (t : Text) :
    cut? [c] (front ++ t) = (cut? [c] t).map fun (before, after) => (front ++ before, after) := by
  induction front with
  | nil => simp
  | cons d front ih =>
    have ne : c ≠ d := fun eq => h (by simp [eq])
    have rest : c ∉ front := fun mem => h (List.mem_cons_of_mem d mem)
    simp [cut?, dropMark?, ne, ih rest, Function.comp_def]

theorem mem_dropWhile {p : Char → Bool} {c : Char} {t : Text} (mem : c ∈ t) (h : ¬p c) :
    c ∈ t.dropWhile p := by
  rw [← List.takeWhile_append_dropWhile (p := p) (l := t), List.mem_append] at mem
  rcases mem with taken | kept
  · exact absurd (List.mem_takeWhile_imp taken) h
  · exact kept

theorem mem_trim {c : Char} {t : Text} (mem : c ∈ t) (h : ¬isBlank c) : c ∈ t.trim := by
  have front : c ∈ t.trimStart := mem_dropWhile mem h
  have back : c ∈ t.trimStart.reverse.dropWhile isBlank :=
    mem_dropWhile (List.mem_reverse.mpr front) h
  exact List.mem_reverse.mpr back

theorem dropWhile_eq_self {p : Char → Bool} {t : Text} (h : ∀ c ∈ t, ¬p c) :
    t.dropWhile p = t := by
  cases t with
  | nil => rfl
  | cons c t => exact List.dropWhile_cons_of_neg (h c (by simp))

theorem trim_eq_self {t : Text} (h : ∀ c ∈ t, ¬isBlank c) : t.trim = t := by
  have front : t.trimStart = t := dropWhile_eq_self h
  have back : t.reverse.dropWhile isBlank = t.reverse :=
    dropWhile_eq_self fun c mem => h c (List.mem_reverse.mp mem)
  rw [trim, front, trimEnd, back, List.reverse_reverse]

theorem trim_between {before core after : Text} (front : before.allBlank)
    (solid : ∀ c ∈ core, ¬isBlank c) (back : after.allBlank) :
    (before ++ core ++ after).trim = core := by
  have blank {t : Text} (h : t.allBlank) : ∀ c ∈ t, isBlank c := List.all_eq_true.mp h
  have start : (before ++ core ++ after).trimStart = (core ++ after).dropWhile isBlank := by
    rw [trimStart, List.append_assoc, List.dropWhile_append_of_pos (blank front)]
  cases core with
  | nil =>
    rw [trim, start, List.nil_append, List.dropWhile_eq_nil_iff.mpr (blank back)]
    rfl
  | cons c core =>
    have first : (c :: core ++ after).dropWhile isBlank = c :: core ++ after :=
      List.dropWhile_cons_of_neg (solid c List.mem_cons_self)
    have last : (c :: core).reverse.dropWhile isBlank = (c :: core).reverse :=
      dropWhile_eq_self fun d mem => solid d (List.mem_reverse.mp mem)
    have trailing : ∀ d ∈ after.reverse, isBlank d :=
      fun d mem => blank back d (List.mem_reverse.mp mem)
    rw [trim, start, first, trimEnd, List.reverse_append, List.dropWhile_append_of_pos trailing,
      last, List.reverse_reverse]

theorem exists_trim (t : Text) :
    ∃ before after : Text, t = before ++ t.trim ++ after ∧ before.allBlank ∧ after.allBlank := by
  have blank (t : Text) : allBlank (t.takeWhile isBlank) := List.all_takeWhile
  have front : t.takeWhile isBlank ++ t.trimStart = t := List.takeWhile_append_dropWhile
  have back : t.trim ++ (t.trimStart.reverse.takeWhile isBlank).reverse = t.trimStart := by
    rw [trim, trimEnd, ← List.reverse_append, List.takeWhile_append_dropWhile, List.reverse_reverse]
  refine ⟨t.takeWhile isBlank, (t.trimStart.reverse.takeWhile isBlank).reverse, ?_, blank t, ?_⟩
  · rw [List.append_assoc, back, front]
  · rw [allBlank, List.all_reverse]
    exact blank t.trimStart.reverse

theorem mem_pieces_of_mem_dropLast {separator : Char} {front t piece : Text} (h : front <+: t)
    (mem : piece ∈ (front.pieces separator).dropLast) : piece ∈ t.pieces separator := by
  obtain ⟨rest, rfl⟩ := h
  by_cases separated : separator ∈ front
  · obtain ⟨first, others, rfl, absent⟩ := List.eq_append_cons_of_mem separated
    have cut : ∀ after, pieces separator (first ++ separator :: after) =
        first :: pieces separator after :=
      fun after => List.splitOn_append_cons_self_of_not_mem absent after
    have more : pieces separator others ≠ [] := List.splitOn_ne_nil separator others
    rw [cut, List.dropLast_cons_of_ne_nil more] at mem
    rw [List.append_assoc, List.cons_append, cut]
    rcases List.mem_cons.mp mem with rfl | later
    · exact List.mem_cons_self
    · have further := mem_pieces_of_mem_dropLast (List.prefix_append others rest) later
      exact List.mem_cons_of_mem first further
  · have whole : front.pieces separator = [front] := List.splitOn_eq_singleton separated
    rw [whole] at mem
    cases mem
termination_by front.length
decreasing_by
  subst_vars
  simp only [List.length_append, List.length_cons]
  omega

theorem lastPiece_append_cons (separator : Char) (front back : Text) :
    lastPiece separator (front ++ separator :: back) = lastPiece separator back := by
  obtain ⟨first, others, pieces⟩ :=
    List.exists_cons_of_ne_nil (List.splitOn_ne_nil separator back)
  unfold lastPiece Text.pieces
  rw [List.splitOn_append_cons_self, pieces, List.getLastD_eq_getLast?, List.getLastD_eq_getLast?,
    List.getLast?_append, List.getLast?_eq_some_getLast (List.cons_ne_nil first others),
    Option.some_or]

theorem mem_of_mem_pieces {separator c : Char} {t piece : Text}
    (mem : piece ∈ t.pieces separator) (h : c ∈ piece) : c ∈ t := by
  induction t generalizing piece with
  | nil =>
    rw [pieces, List.splitOn_nil, List.mem_singleton] at mem
    exact mem ▸ h
  | cons d t ih =>
    rw [pieces, List.splitOn_cons_eq_if_modifyHead] at mem
    split at mem
    case isTrue =>
      rcases List.mem_cons.mp mem with rfl | later
      · cases h
      · exact List.mem_cons_of_mem d (ih later h)
    case isFalse =>
      cases cut : t.splitOn separator with
      | nil => exact absurd cut (List.splitOn_ne_nil separator t)
      | cons first others =>
        rw [cut, List.modifyHead_cons] at mem
        have here : ∀ piece ∈ first :: others, c ∈ piece → c ∈ t := by
          intro piece among
          exact ih (by rwa [pieces, cut])
        rcases List.mem_cons.mp mem with rfl | later
        · rcases List.mem_cons.mp h with rfl | inner
          · exact List.mem_cons_self
          · exact List.mem_cons_of_mem d (here first List.mem_cons_self inner)
        · exact List.mem_cons_of_mem d (here piece (List.mem_cons_of_mem first later) h)

theorem swap_of_not_mem {old new : Char} {t : Text} (h : old ∉ t) : swap old new t = t := by
  have kept : ∀ c ∈ t, (if c = old then new else c) = c := by
    intro c mem
    rw [if_neg]
    rintro rfl
    exact h mem
  exact (List.map_congr_left kept).trans (List.map_id t)

theorem swap_eq_intercalate (old new : Char) (t : Text) :
    swap old new t = [new].intercalate (t.pieces old) := by
  induction t with
  | nil => rfl
  | cons c t ih =>
    have more : t.splitOn old ≠ [] := List.splitOn_ne_nil old t
    have step : swap old new (c :: t) = (if c = old then new else c) :: swap old new t := rfl
    rw [step, ih]
    unfold pieces
    rw [List.splitOn_cons_eq_if_modifyHead]
    by_cases here : c = old
    · subst here
      rw [if_pos rfl, if_pos (beq_self_eq_true _), List.intercalate_cons_of_ne_nil more]
      rfl
    · obtain ⟨first, others, pieces⟩ := List.exists_cons_of_ne_nil more
      rw [if_neg here, if_neg (by simpa using here), pieces, List.modifyHead_cons]
      cases others with
      | nil => rw [List.intercalate_singleton, List.intercalate_singleton]
      | cons => rw [List.intercalate_cons_cons, List.intercalate_cons_cons]; rfl

theorem intercalate_append {c : Char} {front back : List Text} (full : front ≠ [])
    (more : back ≠ []) :
    [c].intercalate (front ++ back) = [c].intercalate front ++ c :: [c].intercalate back := by
  induction front with
  | nil => exact absurd rfl full
  | cons first front ih =>
    cases front with
    | nil =>
      rw [List.singleton_append, List.intercalate_cons_of_ne_nil more, List.intercalate_singleton,
        List.append_assoc]
      rfl
    | cons second front =>
      rw [List.cons_append, List.cons_append, List.intercalate_cons_cons, ← List.cons_append,
        ih (List.cons_ne_nil second front), List.intercalate_cons_cons]
      simp only [List.append_assoc]

theorem dropWhile_intercalate {c : Char} {pieces : List Text} (free : ∀ piece ∈ pieces, c ∉ piece) :
    ([c].intercalate pieces).dropWhile (· == c) =
      [c].intercalate (pieces.dropWhile List.isEmpty) := by
  induction pieces with
  | nil => rfl
  | cons piece pieces ih =>
    obtain ⟨absent, others⟩ := List.forall_mem_cons.mp free
    cases piece with
    | nil =>
      rw [List.dropWhile_cons_of_pos rfl, ← ih others]
      cases pieces with
      | nil => rfl
      | cons => rw [List.intercalate_cons_cons]; exact List.dropWhile_cons_of_pos (by simp)
    | cons first rest =>
      have other : ¬(first == c) = true := by
        rintro same
        exact absent (by simp [eq_of_beq same])
      rw [List.dropWhile_cons_of_neg (by simp)]
      cases pieces with
      | nil => rw [List.intercalate_singleton]; exact List.dropWhile_cons_of_neg other
      | cons => rw [List.intercalate_cons_cons]; exact List.dropWhile_cons_of_neg other

end Pagecraft.Text
