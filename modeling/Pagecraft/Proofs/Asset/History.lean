import Mathlib.Data.Finset.Card
import Mathlib.Data.Finset.Dedup
import Pagecraft.Bundle.Package
import Pagecraft.Proofs.Asset.Library
import Pagecraft.Proofs.Text.Utf8

/-! What a library holds after any run of operations: of the records that were offered to it since
it was last made anew, the first one of each path. Records that came too late leave no trace, and
where no path is offered twice neither does the order. -/
namespace Pagecraft.Asset.Library

inductive Operation where
  | insert (record : Record)
  | extend (records : List Record)
  /-- Makes a library of records, in place of the one that was there. -/
  | collect (records : List Record)

def perform (library : Library) : Operation → Option Bool × Library
  | .insert record => (some (library.offer record).1, (library.offer record).2)
  | .extend records => (none, library.extend records)
  | .collect records => (none, ofList records)

def run (library : Library) : List Operation → List (Option Bool) × Library
  | [] => ([], library)
  | operation :: operations =>
    let next := (library.perform operation).2
    ((library.perform operation).1 :: (next.run operations).1, (next.run operations).2)

def after (operations : List Operation) : Library := (empty.run operations).2

def Operation.offers (before : List Record) : Operation → List Record
  | .insert record => before ++ [record]
  | .extend records => before ++ records
  | .collect records => records

/-- The records offered since the library was last made anew. -/
def offered (operations : List Operation) : List Record :=
  operations.foldl Operation.offers []

theorem run_append (library : Library) (operations others : List Operation) :
    library.run (operations ++ others) =
      ((library.run operations).1 ++ ((library.run operations).2.run others).1,
        ((library.run operations).2.run others).2) := by
  induction operations generalizing library with
  | nil => rfl
  | cons operation operations ih => simp [run, ih]

theorem length_answers (library : Library) (operations : List Operation) :
    (library.run operations).1.length = operations.length := by
  induction operations generalizing library with
  | nil => rfl
  | cons operation operations ih => simp [run, ih]

theorem after_concat (operations : List Operation) (operation : Operation) :
    after (operations ++ [operation]) = ((after operations).perform operation).2 := by
  rw [after, run_append]
  rfl

theorem offered_concat (operations : List Operation) (operation : Operation) :
    offered (operations ++ [operation]) = operation.offers (offered operations) :=
  List.foldl_concat ..

def Finds (library : Library) (offers : List Record) : Prop :=
  ∀ path, library.get? path = offers.find? fun record => record.path = path

theorem finds_empty : empty.Finds [] := fun _ => rfl

theorem Finds.extend {library : Library} {offers : List Record} (finds : library.Finds offers)
    (records : List Record) : (library.extend records).Finds (offers ++ records) := by
  intro path
  rw [get?_extend, finds, List.find?_append]

theorem Finds.perform {library : Library} {offers : List Record} (finds : library.Finds offers)
    (operation : Operation) : (library.perform operation).2.Finds (operation.offers offers) := by
  cases operation with
  | insert record => exact finds.extend [record]
  | extend records => exact finds.extend records
  | collect records => exact finds_empty.extend records

theorem finds_after (operations : List Operation) :
    (after operations).Finds (offered operations) := by
  induction operations using List.reverseRecOn with
  | nil => exact finds_empty
  | append_singleton operations operation ih =>
    rw [after_concat, offered_concat]
    exact ih.perform operation

section
variable {library : Library} {offers : List Record} (finds : library.Finds offers)
include finds

theorem Finds.mem_iff {record : Record} :
    record ∈ library.records ↔ offers.find? (fun r => r.path = record.path) = some record := by
  rw [← finds]
  exact ⟨get?_of_mem, mem_of_get?⟩

theorem Finds.mem_paths_iff {path : Text} :
    path ∈ library.paths ↔ path ∈ offers.map Record.path := by
  rw [← contains_iff, contains, finds, List.find?_isSome, List.mem_map]
  simp only [decide_eq_true_eq]

theorem Finds.size_eq : library.size = (offers.map Record.path).toFinset.card := by
  have same : library.paths.toFinset = (offers.map Record.path).toFinset := by
    ext path
    rw [List.mem_toFinset, List.mem_toFinset, finds.mem_paths_iff]
  rw [← same, List.toFinset_card_of_nodup library.nodup_paths, paths, List.length_map, size]

theorem Finds.offer_iff {record : Record} :
    (library.offer record).1 = true ↔ record.path ∉ offers.map Record.path := by
  rw [offer, Bool.not_eq_true', ← Bool.not_eq_true, contains_iff, finds.mem_paths_iff]

end

theorem offer_iff_becomes_member (library : Library) (record : Record) :
    (library.offer record).1 = true ↔
      record ∉ library.records ∧ record ∈ (library.offer record).2.records := by
  have found : (library.insert record).get? record.path =
      (library.get? record.path).or (some record) := by
    rw [get?_insert, if_pos rfl]
  have answer : (library.offer record).1 = true ↔ library.get? record.path = none := by
    rw [offer, Bool.not_eq_true', contains, Option.isSome_eq_false_iff, Option.isNone_iff_eq_none]
  rw [answer]
  constructor
  · intro free
    rw [free, Option.none_or] at found
    refine ⟨fun mem => ?_, mem_of_get? found⟩
    rw [get?_of_mem mem] at free
    cases free
  · rintro ⟨new, mem⟩
    have there : (library.insert record).get? record.path = some record := get?_of_mem mem
    cases held : library.get? record.path with
    | none => rfl
    | some other =>
      rw [there, held, Option.some_or] at found
      cases found
      exact absurd (mem_of_get? held) new

/-- A library that holds of some records the first one of each path, and nothing else. -/
structure HoldsFirst (library : Library) (offers : List Record) : Prop where
  found : library.Finds offers
  members : ∀ record, record ∈ library.records ↔
    offers.find? (fun r => r.path = record.path) = some record
  size : library.size = (offers.map Record.path).toFinset.card
  increasing : library.records.Pairwise fun a b => a.path.utf8 < b.path.utf8
  table_increasing : library.inlineTable.Pairwise fun a b => a.1.utf8 < b.1.utf8
  table : ∀ path uri, (path, uri) ∈ library.inlineTable ↔
    ∃ record ∈ library.records, record.path = path ∧ record.dataUri = uri

theorem Finds.holdsFirst {library : Library} {offers : List Record} (finds : library.Finds offers) :
    library.HoldsFirst offers := by
  have increasing : library.records.Pairwise fun a b => a.path.utf8 < b.path.utf8 :=
    library.increasing.imp Text.before_iff_utf8_lt.mp
  refine ⟨finds, fun _ => finds.mem_iff, finds.size_eq, increasing, ?_, fun path uri => ?_⟩
  · exact List.pairwise_map.mpr increasing
  · simp only [inlineTable, List.mem_map, Prod.mk.injEq]

theorem find?_eq_some_iff_mem {offers : List Record} (apart : (offers.map Record.path).Nodup)
    {path : Text} {record : Record} :
    offers.find? (fun r => r.path = path) = some record ↔ record ∈ offers ∧ record.path = path := by
  constructor
  · intro found
    exact ⟨List.mem_of_find?_eq_some found, by simpa using List.find?_some found⟩
  · rintro ⟨mem, rfl⟩
    have some : (offers.find? fun r => r.path = record.path).isSome :=
      List.find?_isSome.mpr ⟨record, mem, by simp⟩
    obtain ⟨first, found⟩ := Option.isSome_iff_exists.mp some
    have same : first.path = record.path := by simpa using List.find?_some found
    rw [found, List.inj_on_of_nodup_map apart (List.mem_of_find?_eq_some found) mem same]

theorem Finds.eq_of_perm {library other : Library} {offers others : List Record}
    (finds : library.Finds offers) (finds' : other.Finds others) (perm : offers.Perm others)
    (apart : (offers.map Record.path).Nodup) : library = other := by
  have apart' : (others.map Record.path).Nodup := (perm.map Record.path).nodup_iff.mp apart
  refine ext_get? fun path => ?_
  rw [finds, finds']
  ext record
  rw [find?_eq_some_iff_mem apart, find?_eq_some_iff_mem apart', perm.mem_iff]

theorem answer_insert (before rest : List Operation) (record : Record) :
    (empty.run (before ++ .insert record :: rest)).1[before.length]? =
      some (some ((after before).offer record).1) := by
  rw [run_append, List.getElem?_append_right (length_answers _ _).le, length_answers, Nat.sub_self]
  rfl

/-- After any run a library holds, of the records that were offered since it was made anew, the
first one of each path, in the order of the bytes of their paths, and its table has the data URI of
each. A record was inserted with the answer that it is new if and only if it became a member, that
is, if none with its path had been offered. Where paths are apart, any other run in which the same
records are offered in whatever order ends with the same library, and so with the same pages and
bundles. -/
theorem run_holdsFirst (operations : List Operation) :
    (after operations).HoldsFirst (offered operations) ∧
    (∀ before record rest, operations = before ++ .insert record :: rest →
      ∃ new, (empty.run operations).1[before.length]? = some (some new) ∧
        (new = true ↔ record ∉ (after before).records ∧
          record ∈ (after (before ++ [.insert record])).records) ∧
        (new = true ↔ record.path ∉ (offered before).map Record.path)) ∧
    ∀ others, (offered operations).Perm (offered others) →
      ((offered operations).map Record.path).Nodup →
      after operations = after others ∧
        (∀ tree, (after operations).resolve tree = (after others).resolve tree) ∧
        ∀ tree template base, Bundle.package tree template (after operations) base =
          Bundle.package tree template (after others) base := by
  refine ⟨(finds_after operations).holdsFirst, ?_, fun others perm apart => ?_⟩
  · rintro before record rest rfl
    refine ⟨_, answer_insert before rest record, ?_, (finds_after before).offer_iff⟩
    rw [after_concat]
    exact offer_iff_becomes_member (after before) record
  · have same := (finds_after operations).eq_of_perm (finds_after others) perm apart
    rw [same]
    exact ⟨rfl, fun _ => rfl, fun _ _ _ => rfl⟩

/-! A photo, and a logo that is there in two versions -/

def photo : Record := .ofBytes "photo".toList "/assets/photo".toList "image/png".toList [1]

def logo : Record := .ofBytes "logo".toList "/assets/logo".toList "image/png".toList [2]

def otherLogo : Record := { logo with bytes := [3] }

/-- The other logo comes once before the library is made anew, and once too late. -/
def logoRun : List Operation :=
  [.insert otherLogo, .collect [photo], .insert logo, .insert otherLogo, .insert logo]

theorem run_holdsFirst_logo :
    logoRun = [.insert otherLogo, .collect [photo], .insert logo] ++ .insert otherLogo ::
      [.insert logo] ∧
    (empty.run logoRun).1[3]? = some (some false) ∧ otherLogo ∉ (after logoRun).records ∧
    (offered [.collect [photo], .insert logo]).Perm (offered [.insert logo, .extend [photo]]) ∧
    ((offered [.collect [photo], .insert logo]).map Record.path).Nodup ∧
    after [.collect [photo], .insert logo] = after [.insert logo, .extend [photo]] := by
  obtain ⟨holds, answers, -⟩ := run_holdsFirst logoRun
  obtain ⟨new, answer, -, free⟩ := answers [.insert otherLogo, .collect [photo], .insert logo]
    otherLogo [.insert logo] rfl
  have taken : new = false := by
    rw [← Bool.not_eq_true, free]
    decide
  have perm : (offered [.collect [photo], .insert logo]).Perm
      (offered [.insert logo, .extend [photo]]) := .swap logo photo []
  have apart : ((offered [.collect [photo], .insert logo]).map Record.path).Nodup := by decide
  obtain ⟨-, -, order⟩ := run_holdsFirst [.collect [photo], .insert logo]
  refine ⟨rfl, taken ▸ answer, ?_, perm, apart, (order _ perm apart).1⟩
  rw [holds.members]
  decide

end Pagecraft.Asset.Library
