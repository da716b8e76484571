import Pagecraft.Text.Order

/-! Entries by key, in strictly increasing order of their keys. -/
namespace Pagecraft

/-- Entries by key. The operations below keep them sorted and the keys apart. -/
abbrev Keyed (β : Type u) := List (Text × β)

namespace Keyed

def get? (key : Text) : Keyed β → Option β
  | [] => none
  | (k, value) :: rest => if k = key then some value else get? key rest

def hasKey (key : Text) (entries : Keyed β) : Bool := (get? key entries).isSome

def keys (entries : Keyed β) : List Text := entries.map Prod.fst

def put (key : Text) (value : β) : Keyed β → Keyed β
  | [] => [(key, value)]
  | (k, v) :: rest =>
    if Text.before key k then (key, value) :: (k, v) :: rest
    else if key = k then (key, value) :: rest
    else (k, v) :: put key value rest

/-- The entries of a list, the last one of each key. -/
def ofList (entries : List (Text × β)) : Keyed β :=
  entries.foldl (fun table (key, value) => put key value table) []

def Sorted (entries : Keyed β) : Prop := entries.Pairwise fun a b => Text.before a.1 b.1

@[simp] theorem get?_put_self (key : Text) (value : β) (entries : Keyed β) :
    get? key (put key value entries) = some value := by
  fun_induction put key value entries with
  | case1 | case2 | case3 => simp [get?]
  | case4 k v rest _ ne ih => rw [get?, if_neg (Ne.symm ne), ih]

theorem get?_put_of_ne {key other : Text} (ne : other ≠ key) (value : β) (entries : Keyed β) :
    get? other (put key value entries) = get? other entries := by
  fun_induction put key value entries <;> simp_all [get?, Ne.symm ne]

theorem mem_of_get? {key : Text} {value : β} {entries : Keyed β}
    (h : get? key entries = some value) : (key, value) ∈ entries := by
  fun_induction get? key entries <;> grind

theorem mem_put {key : Text} {value : β} {entries : Keyed β} {entry : Text × β}
    (h : entry ∈ put key value entries) : entry = (key, value) ∨ entry ∈ entries := by
  fun_induction put key value entries <;> grind

theorem Sorted.put {entries : Keyed β} (h : Sorted entries) (key : Text) (value : β) :
    Sorted (Keyed.put key value entries) := by
  unfold Sorted at *
  fun_induction Keyed.put key value entries with
  | case1 => simp
  | case2 k v rest before =>
    refine List.pairwise_cons.mpr ⟨fun e he => ?_, h⟩
    rcases List.mem_cons.mp he with rfl | he
    · exact before
    · exact Text.before_trans before ((List.pairwise_cons.mp h).1 e he)
  | case3 => exact List.pairwise_cons.mpr (List.pairwise_cons.mp h)
  | case4 k v rest notBefore ne ih =>
    obtain ⟨first, rest⟩ := List.pairwise_cons.mp h
    refine List.pairwise_cons.mpr ⟨fun e he => ?_, ih rest⟩
    rcases mem_put he with rfl | he
    · exact Text.before_of_not_before notBefore ne
    · exact first e he

theorem sorted_ofList (entries : List (Text × β)) : Sorted (ofList entries) := by
  suffices ∀ table : Keyed β, Sorted table →
      Sorted (entries.foldl (fun table (key, value) => Keyed.put key value table) table) from
    this [] List.Pairwise.nil
  induction entries with
  | nil => exact fun table h => h
  | cons entry entries ih => exact fun table h => ih _ (h.put _ _)

end Keyed
end Pagecraft
