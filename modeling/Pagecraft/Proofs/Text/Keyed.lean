import Mathlib.Data.List.Basic
import Mathlib.Data.List.Nodup
import Pagecraft.Text.Keyed

/-! What a table holds: putting in a new key adds one entry, wherever its place is, and a table
made of a list has the keys of the list, each once and in order. -/
namespace Pagecraft

theorem Text.ne_of_before {s t : Text} (h : Text.before s t) : s ≠ t := by
  rintro rfl
  exact Text.not_before_self s h

theorem Text.before_append {s rest : Text} (h : rest ≠ []) : Text.before s (s ++ rest) := by
  induction s with
  | nil =>
    cases rest with
    | nil => exact absurd rfl h
    | cons => rfl
  | cons c s ih => simpa [before] using ih

namespace Keyed

theorem keys_map_self (f : Text → β) (list : List Text) :
    keys (list.map fun k => (k, f k)) = list := by
  rw [keys, List.map_map]
  exact List.map_id _

theorem get?_map_self (f : Text → β) (keys : List Text) (key : Text) :
    get? key (keys.map fun k => (k, f k)) = if key ∈ keys then some (f key) else none := by
  induction keys with
  | nil => rfl
  | cons k keys ih =>
    by_cases same : k = key
    · simp [get?, same]
    · simp [get?, same, Ne.symm same, ih]

theorem hasKey_iff {key : Text} {entries : Keyed β} : hasKey key entries ↔ key ∈ entries.keys := by
  induction entries with
  | nil => simp [hasKey, get?, keys]
  | cons entry entries ih =>
    obtain ⟨k, value⟩ := entry
    by_cases same : k = key
    · simp [hasKey, get?, keys, same]
    · have other : key ≠ k := fun eq => same eq.symm
      unfold hasKey keys at ih ⊢
      rw [get?, if_neg same, ih]
      simp [other]

theorem put_perm {key : Text} {value : β} {entries : Keyed β} (new : ¬hasKey key entries) :
    (put key value entries).Perm ((key, value) :: entries) := by
  fun_induction put key value entries with
  | case1 => exact .refl _
  | case2 => exact .refl _
  | case3 => simp [hasKey, get?] at new
  | case4 k v rest _ ne ih =>
    have later : ¬hasKey key rest := by
      simpa [hasKey, get?, Ne.symm ne] using new
    exact ((ih later).cons (k, v)).trans (.swap (key, value) (k, v) rest)

theorem mem_keys_put {key other : Text} {value : β} {entries : Keyed β} :
    other ∈ (put key value entries).keys ↔ other = key ∨ other ∈ entries.keys := by
  rw [← hasKey_iff, ← hasKey_iff, hasKey, hasKey]
  by_cases same : other = key
  · simp [same]
  · simp [get?_put_of_ne same, same]

theorem mem_keys_ofList {key : Text} {entries : List (Text × β)} :
    key ∈ (ofList entries).keys ↔ key ∈ entries.map Prod.fst := by
  suffices ∀ table : Keyed β,
      key ∈ (entries.foldl (fun table entry => put entry.1 entry.2 table) table).keys ↔
        key ∈ entries.map Prod.fst ∨ key ∈ table.keys by
    simpa [ofList, keys] using this []
  induction entries with
  | nil => simp
  | cons entry entries ih =>
    intro table
    rw [List.foldl_cons, ih, mem_keys_put, List.map_cons, List.mem_cons]
    tauto

theorem mem_of_mem_ofList {entry : Text × β} {entries : List (Text × β)}
    (h : entry ∈ ofList entries) : entry ∈ entries := by
  suffices ∀ table : Keyed β,
      entry ∈ entries.foldl (fun table entry => put entry.1 entry.2 table) table →
        entry ∈ entries ∨ entry ∈ table by
    simpa using this [] h
  clear h
  induction entries with
  | nil => exact fun table mem => .inr mem
  | cons first entries ih =>
    intro table mem
    rcases ih _ mem with among | placed
    · exact .inl (List.mem_cons_of_mem first among)
    · rcases mem_put placed with rfl | held
      · exact .inl List.mem_cons_self
      · exact .inr held

theorem Sorted.pairwise_keys {entries : Keyed β} (h : Sorted entries) :
    entries.keys.Pairwise fun a b => Text.before a b :=
  List.pairwise_map.mpr h

end Keyed

theorem Text.nodup_of_pairwise_before {texts : List Text}
    (h : texts.Pairwise fun a b => Text.before a b) : texts.Nodup :=
  h.imp Text.ne_of_before

namespace Keyed

theorem Sorted.nodup_keys {entries : Keyed β} (h : Sorted entries) : entries.keys.Nodup :=
  Text.nodup_of_pairwise_before h.pairwise_keys

theorem get?_eq_none_iff {key : Text} {entries : Keyed β} :
    get? key entries = none ↔ key ∉ entries.keys := by
  rw [← hasKey_iff, hasKey, Option.not_isSome_iff_eq_none]

theorem get?_of_mem {entries : Keyed β} (distinct : entries.keys.Nodup) {entry : Text × β}
    (mem : entry ∈ entries) : get? entry.1 entries = some entry.2 := by
  induction entries with
  | nil => cases mem
  | cons first entries ih =>
    obtain ⟨new, distinct⟩ := List.nodup_cons.mp distinct
    rcases List.mem_cons.mp mem with rfl | later
    · exact if_pos rfl
    · have other : first.1 ≠ entry.1 := fun same => new (same ▸ List.mem_map_of_mem later)
      exact (if_neg other).trans (ih distinct later)

theorem get?_map (f : β → γ) (key : Text) (entries : Keyed β) :
    get? key (entries.map fun entry => (entry.1, f entry.2)) = (get? key entries).map f := by
  fun_induction get? key entries with
  | case1 => rfl
  | case2 value rest => simp [get?]
  | case3 k value rest ne ih => rw [List.map_cons, get?, if_neg ne, ih]

theorem get?_filter {entries : Keyed β} (distinct : entries.keys.Nodup) (p : β → Bool)
    (key : Text) :
    get? key (entries.filter fun entry => p entry.2) = (get? key entries).filter p := by
  induction entries with
  | nil => rfl
  | cons entry entries ih =>
    obtain ⟨k, value⟩ := entry
    obtain ⟨new, distinct⟩ := List.nodup_cons.mp distinct
    have ih := ih distinct
    by_cases same : k = key
    · subst same
      have later := get?_eq_none_iff.mpr new
      rw [later] at ih
      by_cases kept : p value
      · simp [get?, kept, Option.filter_some]
      · simp [get?, kept, ih, Option.filter_some]
    · by_cases kept : p value
      · simp [get?, kept, same, ih]
      · simp [get?, kept, same, ih]

theorem ofList_perm {entries : List (Text × β)} (distinct : (keys entries).Nodup) :
    (ofList entries).Perm entries := by
  suffices ∀ table : Keyed β, (∀ key ∈ keys entries, ¬hasKey key table) →
      (entries.foldl (fun table entry => put entry.1 entry.2 table) table).Perm
        (entries ++ table) by
    have held := this [] fun _ _ => by simp [hasKey, get?]
    rwa [List.append_nil] at held
  induction entries with
  | nil => exact fun table _ => .refl _
  | cons entry entries ih =>
    intro table new
    obtain ⟨first, distinct⟩ := List.nodup_cons.mp distinct
    have placed : (put entry.1 entry.2 table).Perm (entry :: table) :=
      put_perm (new entry.1 List.mem_cons_self)
    have others : ∀ key ∈ keys entries, ¬hasKey key (put entry.1 entry.2 table) := by
      intro key mem held
      rcases mem_keys_put.mp (hasKey_iff.mp held) with rfl | held
      · exact first mem
      · exact new key (List.mem_cons_of_mem _ mem) (hasKey_iff.mpr held)
    rw [List.foldl_cons]
    exact (ih distinct _ others).trans ((placed.append_left entries).trans List.perm_middle)

theorem Sorted.eq_of_perm {entries others : Keyed β} (h : Sorted entries) (h' : Sorted others)
    (perm : entries.Perm others) : entries = others := by
  refine perm.eq_of_pairwise ?_ h h'
  intro a b _ _ before after
  exact absurd (Text.before_trans before after) (Text.not_before_self a.1)

theorem ofList_of_sorted {entries : Keyed β} (h : Sorted entries) : ofList entries = entries :=
  (sorted_ofList entries).eq_of_perm h (ofList_perm h.nodup_keys)

theorem ofList_eq_of_perm {entries others : List (Text × β)} (distinct : (keys entries).Nodup)
    (perm : entries.Perm others) : ofList entries = ofList others := by
  have distinct' : (keys others).Nodup := (perm.map Prod.fst).nodup_iff.mp distinct
  refine (sorted_ofList entries).eq_of_perm (sorted_ofList others) ?_
  exact (ofList_perm distinct).trans (perm.trans (ofList_perm distinct').symm)

end Keyed
end Pagecraft
