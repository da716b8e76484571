import Pagecraft.Proofs.Content.Traversal
import Pagecraft.Proofs.Source.Fetching

/-! The calls that are made of a source. A source may answer each call by what it was called for
before; it does so the same whether the calls are written down or not. -/
namespace Pagecraft

namespace Source

def traced {σ : Type} (source : Source (StateM σ)) : Source (StateM (σ × Answers)) where
  root := source.root
  fetch path := fun (s, calls) =>
    ((source.fetch path s).1, (source.fetch path s).2, calls ++ [(path, (source.fetch path s).1)])

section
variable {σ : Type} (source : Source (StateM σ)) (s : σ) (calls : Answers)

theorem fetch_traced {path : Text} {answer : Except SourceError Fetched} {after : σ}
    (answered : (source.fetch path).run s = (answer, after)) :
    (source.traced.fetch path).run (s, calls) = (answer, after, calls ++ [(path, answer)]) := by
  rw [← (Prod.mk.inj answered).1, ← (Prod.mk.inj answered).2]
  rfl

def callsFor (asked : Answers) : Answers :=
  asked.map fun (path, answer) => (Asset.relative path, answer)

theorem keys_callsFor (asked : Answers) :
    Keyed.keys (callsFor asked) = (Keyed.keys asked).map Asset.relative := by
  rw [Keyed.keys, Keyed.keys, callsFor, List.map_map, List.map_map]
  rfl

theorem ask_traced (paths : List Text) :
    ∃ asked after, Keyed.keys asked = paths ∧ (source.ask paths).run s = (asked, after) ∧
      (source.traced.ask paths).run (s, calls) = (asked, after, calls ++ callsFor asked) := by
  induction paths generalizing s calls with
  | nil => exact ⟨[], s, rfl, rfl, congrArg (fun calls => ([], s, calls)) (by simp [callsFor])⟩
  | cons path paths ih =>
    cases answered : (source.fetch (Asset.relative path)).run s with
    | mk answer next =>
      obtain ⟨asked, after, keys, ran, traced⟩ := ih next (calls ++ [(Asset.relative path, answer)])
      have called := fetch_traced source s calls answered
      refine ⟨(path, answer) :: asked, after, congrArg (path :: ·) keys, ?_, ?_⟩
      · rw [ask_cons, run_bind_of_run_eq answered, run_map_of_run_eq ran]
      · rw [ask_cons, run_bind_of_run_eq called, run_map_of_run_eq traced, List.append_assoc]
        rfl

end
end Source
end Pagecraft
