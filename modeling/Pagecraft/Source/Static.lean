import Pagecraft.Asset.Record
import Pagecraft.Source.Basic

/-! Fetching the static assets of a page. They are fetched in batches, and one that cannot be
had is reported and does not stop the others. -/
namespace Pagecraft

structure MissingAsset where
  path : Text
  reason : Text
deriving DecidableEq, Repr

def MissingAsset.toJson (missing : MissingAsset) : Json :=
  .record [("path", .string missing.path), ("reason", .string missing.reason)]

namespace Source

def batchSize : Nat := 16

def batches : List α → List (List α)
  | [] => []
  | a :: rest => (a :: rest).take batchSize :: batches ((a :: rest).drop batchSize)
termination_by items => items.length
decreasing_by
  rw [List.length_drop, List.length_cons, batchSize]
  omega

@[simp] theorem flatten_batches (items : List α) : (batches items).flatten = items := by
  fun_induction batches items with
  | case1 => rfl
  | case2 a rest ih => rw [List.flatten_cons, ih, List.take_append_drop]

theorem length_le_of_mem_batches {items batch : List α} (h : batch ∈ batches items) :
    batch.length ≤ batchSize := by
  fun_induction batches items with
  | case1 => simp at h
  | case2 a rest ih =>
    rcases List.mem_cons.mp h with rfl | h
    · exact List.length_take_le _ _
    · exact ih h

/-- The record of a fetched asset. Where the source states no type, the path tells it. -/
def recordOf (path : Text) (fetched : Fetched) : Asset.Record :=
  .ofBytes (path.lastPiece '/') path (fetched.contentType.getD (MediaType.ofPath path))
    fetched.bytes

def fetchAsset [Monad m] (source : Source m) (path : Text) :
    m (Except MissingAsset Asset.Record) := do
  match ← source.fetch (Asset.relative path) with
  | .ok fetched => return .ok (recordOf path fetched)
  | .error e => return .error ⟨path, e.message⟩

def sortOut : List (Except MissingAsset Asset.Record) → List Asset.Record × List MissingAsset
  | [] => ([], [])
  | .ok record :: rest => (record :: (sortOut rest).1, (sortOut rest).2)
  | .error missing :: rest => ((sortOut rest).1, missing :: (sortOut rest).2)

def fetchAssets [Monad m] (source : Source m) (paths : List Text) :
    m (List Asset.Record × List MissingAsset) := do
  let results ← (batches paths).mapM fun batch => batch.mapM source.fetchAsset
  return sortOut results.flatten

end Source
end Pagecraft
