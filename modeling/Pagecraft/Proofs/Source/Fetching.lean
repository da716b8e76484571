import Pagecraft.Proofs.Text.Keyed
import Pagecraft.Source.Static

/-! Fetching many assets. In batches or not, all of them are fetched in the order of their paths,
and each is in the end either among the records or among the missing ones. -/
namespace Pagecraft

abbrev Answers := List (Text × Except SourceError Fetched)

namespace Source

theorem mapM_flatten {m : Type → Type} [Monad m] [LawfulMonad m] {α β : Type} (f : α → m β)
    (lists : List (List α)) :
    lists.flatten.mapM f = (do return (← lists.mapM fun list => list.mapM f).flatten) := by
  induction lists with
  | nil => simp
  | cons list lists ih => simp [ih]

theorem fetchAssets_eq {m : Type → Type} [Monad m] [LawfulMonad m] (source : Source m)
    (paths : List Text) :
    source.fetchAssets paths = (do return sortOut (← paths.mapM source.fetchAsset)) := by
  rw [← flatten_batches paths, mapM_flatten, fetchAssets, flatten_batches]
  simp

theorem length_sortOut (results : List (Except MissingAsset Asset.Record)) :
    (sortOut results).1.length + (sortOut results).2.length = results.length := by
  induction results with
  | nil => rfl
  | cons result results ih =>
    cases result <;> simp only [sortOut, List.length_cons] <;> omega

/-! Answers -/

def settle (path : Text) : Except SourceError Fetched → Except MissingAsset Asset.Record
  | .ok fetched => .ok (recordOf path fetched)
  | .error e => .error ⟨path, e.message⟩

theorem fetchAsset_eq {m : Type → Type} [Monad m] [LawfulMonad m] (source : Source m)
    (path : Text) :
    source.fetchAsset path = settle path <$> source.fetch (Asset.relative path) := by
  rw [fetchAsset, map_eq_pure_bind]
  congr 1
  funext answer
  cases answer <;> rfl

def sorted (answers : Answers) : List Asset.Record × List MissingAsset :=
  sortOut (answers.map fun (path, answer) => settle path answer)

def answered? (answers : Answers) (path : Text) : Option Asset.Record :=
  ((Keyed.get? path answers).bind Except.toOption).map (recordOf path)

theorem find?_sorted {answers : Answers} (once : (Keyed.keys answers).Nodup) (path : Text) :
    (sorted answers).1.find? (fun record => record.path = path) = answered? answers path := by
  induction answers with
  | nil => rfl
  | cons entry answers ih =>
    obtain ⟨key, answer⟩ := entry
    obtain ⟨new, once⟩ := List.nodup_cons.mp once
    have ih := ih once
    by_cases same : key = path
    · subst same
      have later : (sorted answers).1.find? (fun record => record.path = key) = none := by
        have absent : Keyed.get? key answers = none := by
          rw [← Option.not_isSome_iff_eq_none, ← Keyed.hasKey, Keyed.hasKey_iff]
          exact new
        rw [ih, answered?, absent]
        rfl
      cases answer with
      | ok fetched =>
        have here : (recordOf key fetched).path = key := rfl
        simp [sorted, answered?, settle, sortOut, Keyed.get?, here, Except.toOption]
      | error e =>
        simpa [sorted, answered?, settle, sortOut, Keyed.get?, Except.toOption] using later
    · have step : answered? ((key, answer) :: answers) path = answered? answers path := by
        rw [answered?, Keyed.get?, if_neg same, answered?]
      rw [step, ← ih]
      cases answer with
      | ok fetched =>
        have other : (recordOf key fetched).path ≠ path := same
        exact List.find?_cons_of_neg (by simpa using other)
      | error e => rfl

section
variable {m : Type → Type} [Monad m] [LawfulMonad m] (source : Source m)

def ask (paths : List Text) : m Answers :=
  paths.mapM fun path => (path, ·) <$> source.fetch (Asset.relative path)

theorem ask_cons (path : Text) (paths : List Text) :
    source.ask (path :: paths) = (do
      let answer ← source.fetch (Asset.relative path)
      (fun asked => (path, answer) :: asked) <$> source.ask paths) := by
  simp [ask]

theorem fetchAssets_eq_ask (paths : List Text) :
    source.fetchAssets paths = sorted <$> source.ask paths := by
  have each : paths.mapM source.fetchAsset =
      (fun asked => asked.map fun entry => settle entry.1 entry.2) <$> source.ask paths := by
    induction paths with
    | nil => simp [ask]
    | cons path paths ih => simp [ask_cons, ih, fetchAsset_eq]
  rw [fetchAssets_eq, each, bind_pure_comp, Functor.map_map]
  rfl

end

/-! A source that is a function of the path -/

def has (source : Source Id) (path : Text) : Bool := (source.fetch (Asset.relative path)).run.isOk

theorem fetchAsset_run (source : Source Id) (path : Text) :
    (source.fetchAsset path).run = settle path (source.fetch (Asset.relative path)).run := by
  rw [fetchAsset_eq, Id.run_map]

def results (source : Source Id) (paths : List Text) : List Asset.Record × List MissingAsset :=
  sortOut (paths.map fun path => (source.fetchAsset path).run)

theorem results_eq (source : Source Id) (paths : List Text) :
    source.results paths =
      sorted (paths.map fun path => (path, (source.fetch (Asset.relative path)).run)) := by
  simp only [results, sorted, List.map_map, fetchAsset_run]
  rfl

theorem fetchAssets_run (source : Source Id) (paths : List Text) :
    (source.fetchAssets paths).run = source.results paths := by
  rw [fetchAssets_eq, results]
  simp

theorem map_path_results (source : Source Id) (paths : List Text) :
    (source.results paths).1.map Asset.Record.path = paths.filter source.has ∧
      (source.results paths).2.map MissingAsset.path =
        paths.filter fun path => !source.has path := by
  induction paths with
  | nil => exact ⟨rfl, rfl⟩
  | cons path paths ih =>
    simp only [results] at ih
    simp only [results, List.map_cons]
    cases answer : (source.fetch (Asset.relative path)).run with
    | ok fetched =>
      have here : (source.fetchAsset path).run = .ok (recordOf path fetched) := by
        rw [fetchAsset_run, answer, settle]
      have has : source.has path = true := by rw [has, answer]; rfl
      rw [here, List.filter_cons_of_pos has, List.filter_cons_of_neg (by simp [has])]
      exact ⟨congrArg (path :: ·) ih.1, ih.2⟩
    | error e =>
      have here : (source.fetchAsset path).run = .error ⟨path, e.message⟩ := by
        rw [fetchAsset_run, answer, settle]
      have hasNot : source.has path = false := by rw [has, answer]; rfl
      rw [here, List.filter_cons_of_neg (by simp [hasNot]),
        List.filter_cons_of_pos (by simp [hasNot])]
      exact ⟨ih.1, congrArg (path :: ·) ih.2⟩

theorem length_results (source : Source Id) (paths : List Text) :
    (source.results paths).1.length + (source.results paths).2.length = paths.length := by
  rw [results, length_sortOut, List.length_map]

end Source
end Pagecraft
