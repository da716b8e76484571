import Mathlib.Data.List.Forall2
import Pagecraft.Json.Fields
import Pagecraft.Proofs.Json.RoundTrip
import Pagecraft.Proofs.Text.Keyed

/-! Records that were printed are read by their fields: each field that is asked for has the value
that was written under its name. What was not printed may be no record, if a name cannot be read or
occurs twice. -/
namespace Pagecraft.Json

theorem writtenMembers_eq (members : List (Text × Json)) :
    writtenMembers members = members.map fun member => (member.1.map glyph, member.2.written) := by
  induction members with
  | nil => rfl
  | cons member members ih => rw [writtenMembers, ih, List.map_cons]

namespace Written

theorem member?_eq (name : Text) (members : List (Text × Written)) :
    member? name members = Keyed.get? name members := by
  induction members with
  | nil => rfl
  | cons member members ih => rw [member?, Keyed.get?, ih]

theorem atMostOnce_iff {members : List (Text × Written)} {name : Text} :
    atMostOnce members name ↔ (members.map Prod.fst).count name ≤ 1 := by
  rw [List.count, List.countP_map, List.countP_eq_length_filter]
  simp [atMostOnce, Function.comp_def, beq_eq_decide]

theorem atMostOnce_of_nodup {members : List (Text × Written)}
    (distinct : (members.map Prod.fst).Nodup) (name : Text) : atMostOnce members name := by
  exact atMostOnce_iff.mpr (List.nodup_iff_count_le_one.mp distinct name)

theorem mapM_map_of_read {f : α → β} {read? : β → Option γ} {g : α → γ}
    (read : ∀ a, read? (f a) = some (g a)) (list : List α) :
    (list.map f).mapM read? = some (list.map g) := by
  induction list with
  | nil => rfl
  | cons a list ih =>
    rw [List.map_cons, List.mapM_cons, read, ih]
    rfl

theorem fields?_written {members : List (Text × Json)} (distinct : (members.map Prod.fst).Nodup) :
    fields? (members.map Prod.fst) (Json.object members).written =
      some (members.map fun member => some member.2.written) := by
  have names : (members.map fun member => (member.1, member.2.written)).map Prod.fst =
      members.map Prod.fst := by
    rw [List.map_map]
    rfl
  have each : ∀ name ∈ members.map Prod.fst,
      atMostOnce (members.map fun member => (member.1, member.2.written)) name :=
    fun name _ => atMostOnce_of_nodup (by rwa [names]) name
  have found : ∀ member ∈ members,
      member? member.1 (members.map fun member => (member.1, member.2.written)) =
        some member.2.written := by
    intro member mem
    rw [member?_eq, Keyed.get?_map, Keyed.get?_of_mem distinct mem, Option.map_some]
  rw [written, writtenMembers_eq, fields?,
    mapM_map_of_read (g := fun member : Text × Json => (member.1, member.2.written)) ?read]
  case read => simp only [Glyph.text?_map_glyph, Option.map_some, implies_true]
  simp only [Option.bind_eq_bind, Option.bind_some]
  rw [if_pos (List.all_eq_true.mpr each), List.map_map]
  exact congrArg some (List.map_congr_left found)

theorem text?_written (t : Text) : text? (Json.string t).written = some t :=
  Glyph.text?_map_glyph t

theorem word64?_written (size : UInt64) : word64? (Json.ofNat size.toNat).written = some size := by
  have small : size.toNat < UInt64.size := size.toNat_lt_size
  have word : (Number.integer size.toNat).IsWord := by
    rw [UInt64.size] at small
    constructor <;> omega
  rw [ofNat, Json.written, Number.numeral_integer, word64?, Numeral.value?_ofInt word]
  exact (if_pos small).trans (congrArg some (UInt64.ofNat_toNat))

theorem list?_written {read? : Written → Option α} {toJson : α → Json}
    (read : ∀ a, read? (toJson a).written = some a) (list : List α) :
    list? read? (Json.array (list.map toJson)).written = some list := by
  rw [Json.written, writtenItems_eq, list?, List.map_map]
  exact (mapM_map_of_read read list).trans (congrArg some (List.map_id list))

theorem mapM_eq_some_iff {read? : α → Option β} {items : List α} {results : List β} :
    items.mapM read? = some results ↔ List.Forall₂ (fun a b => read? a = some b) items results := by
  induction items generalizing results with
  | nil => simp [eq_comm]
  | cons a items ih =>
    rw [List.mapM_cons, List.forall₂_cons_left_iff]
    simp only [Option.bind_eq_bind, Option.bind_eq_some_iff, ih]
    constructor
    · rintro ⟨b, here, rest, others, same⟩
      cases same
      exact ⟨b, rest, here, others, rfl⟩
    · rintro ⟨b, rest, here, others, rfl⟩
      exact ⟨b, here, rest, others, rfl⟩

structure Named (known : List Text) (members : List (List Glyph × Written))
    (named : List (Text × Written)) : Prop where
  read : List.Forall₂ (fun member entry => Glyph.text? member.1 = some entry.1 ∧ member.2 = entry.2)
    members named
  once : ∀ name ∈ known, (named.map Prod.fst).count name ≤ 1

theorem fields?_object_eq_some_iff {known : List Text} {members : List (List Glyph × Written)}
    {fields : List (Option Written)} :
    fields? known (.object members) = some fields ↔
      ∃ named, Named known members named ∧ fields = known.map (Keyed.get? · named) := by
  have values (named : List (Text × Written)) :
      known.map (member? · named) = known.map (Keyed.get? · named) :=
    List.map_congr_left fun name _ => member?_eq name named
  have entry (member : List Glyph × Written) (entry : Text × Written) :
      ((Glyph.text? member.1).map fun name => (name, member.2)) = some entry ↔
        Glyph.text? member.1 = some entry.1 ∧ member.2 = entry.2 := by
    simp [Option.map_eq_some_iff, Prod.ext_iff]
  rw [fields?]
  simp only [Option.bind_eq_bind, Option.bind_eq_some_iff, mapM_eq_some_iff, entry, values,
    Option.ite_none_right_eq_some, List.all_eq_true, atMostOnce_iff, Option.some.injEq]
  constructor
  · rintro ⟨named, read, once, same⟩
    exact ⟨named, ⟨read, once⟩, same.symm⟩
  · rintro ⟨named, ⟨read, once⟩, same⟩
    exact ⟨named, read, once, same.symm⟩

end Written
end Pagecraft.Json
