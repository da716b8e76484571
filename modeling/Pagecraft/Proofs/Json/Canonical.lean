import Pagecraft.Export.Report
import Pagecraft.Proofs.Json.RoundTrip
import Pagecraft.Proofs.Text.Keyed

/-! The canonical form of a value stands for all values that differ from it in the order of their
members. Moving members about does not change it, the value itself can be moved into it, and its
text gives it back. -/
namespace Pagecraft.Json

/-- That two values are equal up to the order of the members of objects, at any depth: one is
turned into the other by moving members, any number of times, in any object within it. -/
inductive Reordered : Json → Json → Prop
  | refl (value : Json) : Reordered value value
  | trans {a b c : Json} (first : Reordered a b) (second : Reordered b c) : Reordered a c
  | members {members moved : List (Text × Json)} (perm : members.Perm moved) :
    Reordered (.object members) (.object moved)
  | item (before after : List Json) {a b : Json} (inner : Reordered a b) :
    Reordered (.array (before ++ a :: after)) (.array (before ++ b :: after))
  | member (before after : List (Text × Json)) (name : Text) {a b : Json} (inner : Reordered a b) :
    Reordered (.object (before ++ (name, a) :: after)) (.object (before ++ (name, b) :: after))

theorem canonicalItems_eq (items : List Json) : canonicalItems items = items.map canonical := by
  induction items with
  | nil => rfl
  | cons item items ih => rw [canonicalItems, ih, List.map_cons]

theorem canonicalMembers_eq (members : List (Text × Json)) :
    canonicalMembers members = members.map fun member => (member.1, canonical member.2) := by
  induction members with
  | nil => rfl
  | cons member members ih => rw [canonicalMembers, ih, List.map_cons]

theorem names_canonicalMembers (members : List (Text × Json)) :
    (canonicalMembers members).map Prod.fst = members.map Prod.fst := by
  rw [canonicalMembers_eq, List.map_map]
  rfl

/-! Values of words stay such values. -/

theorem Integral.canonical {value : Json} (integral : value.Integral) :
    value.canonical.Integral := by
  induction integral with
  | null => exact .null
  | bool value => exact .bool value
  | number word => exact .number word
  | string value => exact .string value
  | array _ ih =>
    rw [Json.canonical, canonicalItems_eq]
    refine .array fun item mem => ?_
    obtain ⟨source, among, rfl⟩ := List.mem_map.mp mem
    exact ih source among
  | object _ ih =>
    rw [Json.canonical, canonicalMembers_eq]
    refine .object fun member mem => ?_
    obtain ⟨source, among, rfl⟩ := List.mem_map.mp (Keyed.mem_of_mem_ofList mem)
    exact ih source among

namespace Reordered

theorem symm {a b : Json} (h : Reordered a b) : Reordered b a := by
  induction h with
  | refl value => exact .refl value
  | trans _ _ ih ih' => exact ih'.trans ih
  | members perm => exact .members perm.symm
  | item before after _ ih => exact .item before after ih
  | member before after name _ ih => exact .member before after name ih

theorem items {f : Json → Json} {items : List Json}
    (each : ∀ item ∈ items, Reordered item (f item)) :
    Reordered (.array items) (.array (items.map f)) := by
  suffices ∀ before, Reordered (.array (before ++ items)) (.array (before ++ items.map f)) from
    this []
  induction items with
  | nil => exact fun before => .refl _
  | cons first items ih =>
    intro before
    have rest := ih (fun item mem => each item (List.mem_cons_of_mem first mem))
      (before ++ [f first])
    rw [List.append_assoc, List.append_assoc] at rest
    exact (item before items (each first List.mem_cons_self)).trans rest

theorem values {f : Json → Json} {members : List (Text × Json)}
    (each : ∀ member ∈ members, Reordered member.2 (f member.2)) :
    Reordered (.object members) (.object (members.map fun member => (member.1, f member.2))) := by
  suffices ∀ before, Reordered (.object (before ++ members))
      (.object (before ++ members.map fun member => (member.1, f member.2))) from this []
  induction members with
  | nil => exact fun before => .refl _
  | cons first members ih =>
    intro before
    have rest := ih (fun member mem => each member (List.mem_cons_of_mem first mem))
      (before ++ [(first.1, f first.2)])
    rw [List.append_assoc, List.append_assoc] at rest
    exact (member before members first.1 (each first List.mem_cons_self)).trans rest

theorem distinct {a b : Json} (h : Reordered a b) (distinct : a.Distinct) : b.Distinct := by
  induction h with
  | refl => exact distinct
  | trans _ _ ih ih' => exact ih' (ih distinct)
  | members perm =>
    cases distinct with
    | object names all =>
      exact .object ((perm.map Prod.fst).nodup_iff.mp names)
        fun member mem => all member (perm.mem_iff.mpr mem)
  | item before after _ ih =>
    cases distinct with
    | array all =>
      simp only [List.forall_mem_append, List.forall_mem_cons] at all
      refine .array ?_
      simp only [List.forall_mem_append, List.forall_mem_cons]
      exact ⟨all.1, ih all.2.1, all.2.2⟩
  | member before after name _ ih =>
    cases distinct with
    | object names all =>
      simp only [List.forall_mem_append, List.forall_mem_cons] at all
      refine .object (by simpa using names) ?_
      simp only [List.forall_mem_append, List.forall_mem_cons]
      exact ⟨all.1, ih all.2.1, all.2.2⟩

theorem canonical_eq {a b : Json} (h : Reordered a b) (distinct : a.Distinct) :
    a.canonical = b.canonical := by
  induction h with
  | refl => rfl
  | trans first _ ih ih' => exact (ih distinct).trans (ih' (first.distinct distinct))
  | @members members moved perm =>
    cases distinct with
    | object names _ =>
      have perm' : (canonicalMembers members).Perm (canonicalMembers moved) := by
        rw [canonicalMembers_eq, canonicalMembers_eq]
        exact perm.map _
      rw [canonical, canonical, Keyed.ofList_eq_of_perm _ perm']
      rwa [Keyed.keys, names_canonicalMembers]
  | item before after _ ih =>
    cases distinct with
    | array all =>
      simp only [List.forall_mem_append, List.forall_mem_cons] at all
      simp only [canonical, canonicalItems_eq, List.map_append, List.map_cons, ih all.2.1]
  | member before after name _ ih =>
    cases distinct with
    | object _ all =>
      simp only [List.forall_mem_append, List.forall_mem_cons] at all
      simp only [canonical, canonicalMembers_eq, List.map_append, List.map_cons, ih all.2.1]

end Reordered

theorem reordered_canonical {value : Json} (distinct : value.Distinct) :
    Reordered value value.canonical := by
  induction distinct with
  | null | bool | number | string => exact .refl _
  | array _ ih =>
    rw [canonical, canonicalItems_eq]
    exact .items ih
  | @object members names _ ih =>
    have sorted : (canonicalMembers members).Perm (Keyed.ofList (canonicalMembers members)) :=
      (Keyed.ofList_perm (by rwa [Keyed.keys, names_canonicalMembers])).symm
    rw [canonical]
    refine .trans ?_ (.members sorted)
    rw [canonicalMembers_eq]
    exact .values ih

theorem canonical_eq_iff {a b : Json} (distinct : a.Distinct) (distinct' : b.Distinct) :
    a.canonical = b.canonical ↔ Reordered a b := by
  constructor
  · intro same
    have back := (reordered_canonical distinct').symm
    rw [← same] at back
    exact (reordered_canonical distinct).trans back
  · exact fun h => h.canonical_eq distinct

theorem Reordered.digest_eq {a b : Json} (h : Reordered a b) (distinct : a.Distinct) :
    a.digest = b.digest := by
  rw [digest, canonicalText, h.canonical_eq distinct, digest, canonicalText]

theorem canonicalText_eq_iff {a b : Json} (integral : a.Integral) (integral' : b.Integral)
    (distinct : a.Distinct) (distinct' : b.Distinct) :
    a.canonicalText = b.canonicalText ↔ Reordered a b := by
  rw [← canonical_eq_iff distinct distinct']
  exact ⟨compact_injective integral.canonical integral'.canonical, congrArg compact⟩

/-- The text of the canonical form tells exactly those values apart that differ by more than the
order of their members, and so do its bytes, of which a digest is taken. -/
theorem canonicalText_faithful {a b : Json} (integral : a.Integral) (integral' : b.Integral)
    (distinct : a.Distinct) (distinct' : b.Distinct) :
    (a.canonicalText = b.canonicalText ↔ Reordered a b) ∧
      (Reordered a b → a.digest = b.digest) ∧
      (a.canonicalText.utf8 = b.canonicalText.utf8 → Reordered a b) := by
  have texts := canonicalText_eq_iff integral integral' distinct distinct'
  refine ⟨texts, fun h => h.digest_eq distinct, fun bytes => texts.mp ?_⟩
  have read := congrArg Text.ofUtf8? bytes
  rw [Text.ofUtf8?_utf8, Text.ofUtf8?_utf8] at read
  exact Option.some.inj read

/-- `{"z":-1,"m":[{"b":"\n","a":null}]}` -/
def shuffled : Json :=
  .object [(['z'], .number (.integer (-1))),
    (['m'], .array [.object [(['b'], .string ['\n']), (['a'], .null)]])]

/-- `{"m":[{"a":null,"b":"\n"}],"z":-1}` -/
def ordered : Json :=
  .object [(['m'], .array [.object [(['a'], .null), (['b'], .string ['\n'])]]),
    (['z'], .number (.integer (-1)))]

theorem canonicalText_faithful_shuffled : shuffled.Integral ∧ ordered.Integral ∧
    shuffled.Distinct ∧ ordered.Distinct ∧ Reordered shuffled ordered ∧
    shuffled.digest = ordered.digest := by
  have integral : shuffled.Integral := by simp [shuffled, Number.IsWord]
  have integral' : ordered.Integral := by simp [ordered, Number.IsWord]
  have distinct : shuffled.Distinct := by simp [shuffled]
  have distinct' : ordered.Distinct := by simp [ordered]
  obtain ⟨texts, moved, -⟩ := canonicalText_faithful integral integral' distinct distinct'
  have same : Reordered shuffled ordered := texts.mp (by decide +kernel)
  exact ⟨integral, integral', distinct, distinct', same, moved same⟩

end Pagecraft.Json
