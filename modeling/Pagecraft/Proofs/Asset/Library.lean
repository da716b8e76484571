import Mathlib.Data.List.Nodup
import Pagecraft.Asset.Library

/-! Looking up in a library. The first record that was put in under a path is the one that is
found under it, and everything else about libraries follows from that. -/
namespace Pagecraft.Asset.Library

theorem find?_eq_none_of_before {record : Record} {records : List Record}
    (h : ∀ r ∈ records, Text.before record.path r.path) :
    records.find? (fun r => r.path = record.path) = none := by
  rw [List.find?_eq_none]
  intro r mem same
  have := h r mem
  rw [of_decide_eq_true same] at this
  exact Text.not_before_self record.path this

theorem find?_place {records : List Record}
    (increasing : records.Pairwise fun a b => Text.before a.path b.path) (record : Record)
    (path : Text) :
    (place record records).find? (fun r => r.path = path) =
      (records.find? fun r => r.path = path).or
        (if record.path = path then some record else none) := by
  fun_induction place record records with
  | case1 => by_cases same : record.path = path <;> simp [same]
  | case2 r rest before =>
    by_cases same : record.path = path
    · -- all other paths come later
      have all : ∀ other ∈ r :: rest, Text.before record.path other.path := by
        intro other mem
        rcases List.mem_cons.mp mem with rfl | mem
        · exact before
        · exact Text.before_trans before ((List.pairwise_cons.mp increasing).1 other mem)
      have missing := find?_eq_none_of_before all
      rw [same] at missing
      rw [missing, List.find?_cons_of_pos (by simpa using same), if_pos same]
      rfl
    · rw [List.find?_cons_of_neg (by simpa using same), if_neg same, Option.or_none]
  | case3 r rest _ same =>
    by_cases found : r.path = path
    · rw [List.find?_cons_of_pos (by simpa using found), Option.some_or]
    · rw [if_neg (same ▸ found), Option.or_none]
  | case4 r rest _ _ ih =>
    have ih := ih (List.pairwise_cons.mp increasing).2
    by_cases found : r.path = path
    · rw [List.find?_cons_of_pos (by simpa using found),
        List.find?_cons_of_pos (by simpa using found), Option.some_or]
    · rw [List.find?_cons_of_neg (by simpa using found),
        List.find?_cons_of_neg (by simpa using found), ih]

theorem get?_insert (library : Library) (record : Record) (path : Text) :
    (library.insert record).get? path =
      (library.get? path).or (if record.path = path then some record else none) :=
  find?_place library.increasing record path

@[simp] theorem get?_empty (path : Text) : empty.get? path = none := rfl

theorem get?_extend (library : Library) (records : List Record) (path : Text) :
    (library.extend records).get? path =
      (library.get? path).or (records.find? fun r => r.path = path) := by
  induction records generalizing library with
  | nil => exact Option.or_none.symm
  | cons record records ih =>
    have step : library.extend (record :: records) = (library.insert record).extend records := rfl
    rw [step, ih, get?_insert, Option.or_assoc]
    congr 1
    by_cases same : record.path = path
    · rw [if_pos same, List.find?_cons_of_pos (by simpa using same), Option.some_or]
    · rw [if_neg same, List.find?_cons_of_neg (by simpa using same), Option.none_or]

theorem path_of_get? {library : Library} {path : Text} {record : Record}
    (h : library.get? path = some record) : record.path = path := by
  rw [get?] at h
  simpa using List.find?_some h

theorem mem_of_get? {library : Library} {path : Text} {record : Record}
    (h : library.get? path = some record) : record ∈ library.records := List.mem_of_find?_eq_some h

theorem find?_of_mem {record : Record} {records : List Record}
    (increasing : records.Pairwise fun a b => Text.before a.path b.path) (mem : record ∈ records) :
    records.find? (fun r => r.path = record.path) = some record := by
  induction records with
  | nil => cases mem
  | cons r rest ih =>
    obtain ⟨first, increasing⟩ := List.pairwise_cons.mp increasing
    rcases List.mem_cons.mp mem with rfl | later
    · exact List.find?_cons_of_pos (by simp)
    · have ne : r.path ≠ record.path := by
        intro same
        have := first record later
        rw [same] at this
        exact Text.not_before_self record.path this
      rw [List.find?_cons_of_neg (by simpa using ne), ih increasing later]

theorem get?_of_mem {library : Library} {record : Record} (mem : record ∈ library.records) :
    library.get? record.path = some record := find?_of_mem library.increasing mem

theorem nodup_paths (library : Library) : library.paths.Nodup := by
  rw [paths, List.Nodup, List.pairwise_map]
  apply library.increasing.imp
  intro a b earlier same
  rw [same] at earlier
  exact Text.not_before_self b.path earlier

theorem ext_get? {library other : Library}
    (h : ∀ path, library.get? path = other.get? path) : library = other := by
  have mem : ∀ record, record ∈ library.records ↔ record ∈ other.records := by
    intro record
    constructor
    · intro here
      exact mem_of_get? ((h record.path).symm.trans (get?_of_mem here))
    · intro there
      exact mem_of_get? ((h record.path).trans (get?_of_mem there))
  have distinct : ∀ l : Library, l.records.Nodup := fun l => List.Nodup.of_map _ l.nodup_paths
  have perm := (List.perm_ext_iff_of_nodup (distinct library) (distinct other)).mpr mem
  have same : library.records = other.records := by
    refine perm.eq_of_pairwise ?_ library.increasing other.increasing
    intro a b _ _ before after
    exact absurd (Text.before_trans before after) (Text.not_before_self a.path)
  cases library
  cases other
  cases same
  rfl

theorem get?_inlineTable (library : Library) (path : Text) :
    Keyed.get? path library.inlineTable = (library.get? path).map Record.dataUri := by
  rw [inlineTable, get?]
  induction library.records with
  | nil => rfl
  | cons r rest ih =>
    by_cases same : r.path = path
    · rw [List.find?_cons_of_pos (by simpa using same), List.map_cons, Keyed.get?, if_pos same]
      rfl
    · rw [List.find?_cons_of_neg (by simpa using same), List.map_cons, Keyed.get?, if_neg same, ih]

theorem contains_iff {library : Library} {path : Text} :
    library.contains path ↔ path ∈ library.paths := by
  rw [contains, get?, List.find?_isSome, paths, List.mem_map]
  simp only [decide_eq_true_eq]

@[simp] theorem contains_empty (path : Text) : empty.contains path = false := rfl

theorem contains_extend {library : Library} {records : List Record} {path : Text} :
    (library.extend records).contains path ↔
      library.contains path ∨ path ∈ records.map Record.path := by
  rw [contains, get?_extend, Option.isSome_or, Bool.or_eq_true, ← contains, List.find?_isSome,
    List.mem_map]
  simp only [decide_eq_true_eq]

theorem place_perm {record : Record} {records : List Record}
    (h : record.path ∉ records.map Record.path) :
    (place record records).Perm (record :: records) := by
  fun_induction place record records with
  | case1 => exact .refl _
  | case2 => exact .refl _
  | case3 r rest _ same => simp [same] at h
  | case4 r rest _ _ ih =>
    have later : record.path ∉ rest.map Record.path := fun mem => h (List.mem_cons_of_mem _ mem)
    exact ((ih later).cons r).trans (.swap record r rest)

theorem perm_extend {library : Library} {records : List Record}
    (apart : (records.map Record.path).Nodup)
    (fresh : ∀ path ∈ records.map Record.path, ¬library.contains path) :
    (library.extend records).records.Perm (records ++ library.records) := by
  induction records generalizing library with
  | nil => exact .refl _
  | cons record records ih =>
    obtain ⟨new, apart⟩ := List.nodup_cons.mp apart
    have step : library.extend (record :: records) = (library.insert record).extend records := rfl
    have placed : (library.insert record).records.Perm (record :: library.records) := by
      apply place_perm
      intro mem
      exact fresh record.path (by simp) (contains_iff.mpr mem)
    have others : ((library.insert record).extend records).records.Perm
        (records ++ (library.insert record).records) := by
      apply ih apart
      intro path mem held
      have held : ((library.extend [record]).contains path) := held
      rcases contains_extend.mp held with held | held
      · exact fresh path (List.mem_cons_of_mem _ mem) held
      · obtain rfl : path = record.path := by simpa using held
        exact new mem
    rw [step]
    calc ((library.insert record).extend records).records.Perm
          (records ++ (library.insert record).records) := others
      List.Perm _ (records ++ record :: library.records) := placed.append_left records
      List.Perm _ (record :: (records ++ library.records)) := List.perm_middle

end Pagecraft.Asset.Library
