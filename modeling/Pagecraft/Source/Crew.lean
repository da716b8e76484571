import Pagecraft.Source.Static

/-! Fetching with threads. Each asset of a batch is fetched by a thread of its own. All threads of a
batch are started before the first of them is waited for, and results are taken in the order of the
paths, in whatever order the threads come to their ends. What may happen next is an event, and a
list of events is a schedule. -/
namespace Pagecraft.Source

inductive Phase where
  | started
  | asking
  | ended (result : Except MissingAsset Asset.Record)

/-- The thread for one position of a list of paths. One that could not be started has ended. -/
structure Fetcher where
  position : Nat
  path : Text
  phase : Phase

namespace Fetcher

def isAlive (fetcher : Fetcher) : Bool :=
  match fetcher.phase with
  | .started | .asking => true
  | .ended _ => false

def crashed : Text := "fetch thread panicked".toList

def notStarted (cause : Text) : Text := "could not start fetch thread: ".toList ++ cause

def failed (position : Nat) (path reason : Text) : Fetcher :=
  ⟨position, path, .ended (.error ⟨path, reason⟩)⟩

end Fetcher

/-- Threads are named by their places among those that have not been joined. -/
inductive Event where
  | start
  /-- No thread could be started for the next path. -/
  | refuse (cause : Text)
  | ask (place : Nat)
  | answer (place : Nat)
  | crash (place : Nat)
  | join
  | turn
deriving DecidableEq, Repr

/-- Whether a thread fails for reasons of its own, and not because the source has no answer. -/
def Event.fails : Event → Bool
  | .refuse _ | .crash _ => true
  | .start | .ask _ | .answer _ | .join | .turn => false

/-- Fetching under way: what has been taken, the threads of the batch at hand in order of its paths,
its paths without a thread, and the batches after it, all paths with their positions. Requests are
written down with the position for which they were made. -/
structure Crew where
  results : List (Text × Except MissingAsset Asset.Record)
  fetchers : List Fetcher
  unstarted : List (Text × Nat)
  later : List (List (Text × Nat))
  requests : List (Nat × Text)

namespace Crew

def ofPaths (paths : List Text) : Crew := ⟨[], [], [], batches paths.zipIdx, []⟩

def perform? (source : Source Id) (crew : Crew) : Event → Option Crew
  | .start =>
    match crew.unstarted with
    | (path, position) :: rest =>
      let fetcher : Fetcher := ⟨position, path, .started⟩
      some { crew with fetchers := crew.fetchers ++ [fetcher], unstarted := rest }
    | [] => none
  | .refuse cause =>
    match crew.unstarted with
    | (path, position) :: rest =>
      let fetcher := Fetcher.failed position path (Fetcher.notStarted cause)
      some { crew with fetchers := crew.fetchers ++ [fetcher], unstarted := rest }
    | [] => none
  | .ask place =>
    match crew.fetchers[place]? with
    | some ⟨position, path, .started⟩ =>
      some { crew with
        fetchers := crew.fetchers.set place ⟨position, path, .asking⟩
        requests := crew.requests ++ [(position, Asset.relative path)] }
    | _ => none
  | .answer place =>
    match crew.fetchers[place]? with
    | some ⟨position, path, .asking⟩ =>
      let result := (source.fetchAsset path).run
      some { crew with fetchers := crew.fetchers.set place ⟨position, path, .ended result⟩ }
    | _ => none
  | .crash place =>
    match crew.fetchers[place]? with
    | some fetcher =>
      let ended := Fetcher.failed fetcher.position fetcher.path Fetcher.crashed
      if fetcher.isAlive then some { crew with fetchers := crew.fetchers.set place ended } else none
    | none => none
  | .join =>
    match crew.unstarted, crew.fetchers with
    | [], ⟨_, path, .ended result⟩ :: rest =>
      some { crew with results := crew.results ++ [(path, result)], fetchers := rest }
    | _, _ => none
  | .turn =>
    match crew.unstarted, crew.fetchers, crew.later with
    | [], [], batch :: later => some { crew with unstarted := batch, later := later }
    | _, _, _ => none

def run? (source : Source Id) (crew : Crew) (schedule : List Event) : Option Crew :=
  schedule.foldlM (fun crew event => crew.perform? source event) crew

def isOver (crew : Crew) : Bool :=
  crew.fetchers.isEmpty && crew.unstarted.isEmpty && crew.later.isEmpty

def inFlight (crew : Crew) : Nat := (crew.fetchers.filter Fetcher.isAlive).length

def outcome (crew : Crew) : List Asset.Record × List MissingAsset :=
  sortOut (crew.results.map Prod.snd)

end Crew
end Pagecraft.Source
