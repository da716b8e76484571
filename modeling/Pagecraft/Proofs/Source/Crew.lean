import Mathlib.Data.List.Perm.Subperm
import Pagecraft.Proofs.Export.Degradation
import Pagecraft.Source.Crew

/-! Whatever the schedule, threads fetch what is fetched one after another. A step settles the
result of one position at most, and for the path of that position; requests are moved from those
that are due to those that were made; and each step leaves less to be done, so that every schedule
comes to an end at which all has been taken in the order of the paths. -/
namespace Pagecraft.Source

def alone (source : Source Id) (path : Text) : Text × Except MissingAsset Asset.Record :=
  (path, (source.fetchAsset path).run)

def IsThreadFailure (reason : Text) : Prop :=
  reason = Fetcher.crashed ∨ ∃ cause, reason = Fetcher.notStarted cause

namespace Fetcher

/-- What comes of the path of a thread if the thread does not fail any more. -/
def prospect (source : Source Id) (fetcher : Fetcher) : Text × Except MissingAsset Asset.Record :=
  match fetcher.phase with
  | .ended result => (fetcher.path, result)
  | .started | .asking => alone source fetcher.path

theorem prospect_fst (source : Source Id) (fetcher : Fetcher) :
    (fetcher.prospect source).1 = fetcher.path := by
  unfold prospect
  split <;> rfl

def due (fetcher : Fetcher) : List (Nat × Text) :=
  match fetcher.phase with
  | .started => [(fetcher.position, Asset.relative fetcher.path)]
  | .asking | .ended _ => []

def isStarted (fetcher : Fetcher) : Bool :=
  match fetcher.phase with
  | .started => true
  | .asking | .ended _ => false

end Fetcher

def requestAt (place : Text × Nat) : Nat × Text := (place.2, Asset.relative place.1)

namespace Crew

/-- What one event does, with the thread that it is about set apart from the others. -/
inductive Step (source : Source Id) : Crew → Event → Crew → Prop
  | start {results fetchers path position rest later requests} :
    Step source ⟨results, fetchers, (path, position) :: rest, later, requests⟩ .start
      ⟨results, fetchers ++ [⟨position, path, .started⟩], rest, later, requests⟩
  | refuse {results fetchers path position rest later requests} (cause : Text) :
    Step source ⟨results, fetchers, (path, position) :: rest, later, requests⟩ (.refuse cause)
      ⟨results, fetchers ++ [.failed position path (Fetcher.notStarted cause)], rest, later,
        requests⟩
  | ask {results front path position back unstarted later requests} :
    Step source ⟨results, front ++ ⟨position, path, .started⟩ :: back, unstarted, later, requests⟩
      (.ask front.length)
      ⟨results, front ++ ⟨position, path, .asking⟩ :: back, unstarted, later,
        requests ++ [(position, Asset.relative path)]⟩
  | answer {results front path position back unstarted later requests} :
    Step source ⟨results, front ++ ⟨position, path, .asking⟩ :: back, unstarted, later, requests⟩
      (.answer front.length)
      ⟨results, front ++ ⟨position, path, .ended (source.fetchAsset path).run⟩ :: back, unstarted,
        later, requests⟩
  | crash {results front back unstarted later requests} {fetcher : Fetcher}
      (alive : fetcher.isAlive) :
    Step source ⟨results, front ++ fetcher :: back, unstarted, later, requests⟩
      (.crash front.length)
      ⟨results, front ++ .failed fetcher.position fetcher.path Fetcher.crashed :: back, unstarted,
        later, requests⟩
  | join {results path position result rest later requests} :
    Step source ⟨results, ⟨position, path, .ended result⟩ :: rest, [], later, requests⟩ .join
      ⟨results ++ [(path, result)], rest, [], later, requests⟩
  | turn {results batch later requests} :
    Step source ⟨results, [], [], batch :: later, requests⟩ .turn
      ⟨results, [], batch, later, requests⟩

theorem exists_append_of_getElem? {fetchers : List Fetcher} {place : Nat} {fetcher : Fetcher}
    (there : fetchers[place]? = some fetcher) :
    ∃ front back, fetchers = front ++ fetcher :: back ∧ place = front.length := by
  obtain ⟨inside, rfl⟩ := List.getElem?_eq_some_iff.mp there
  refine ⟨fetchers.take place, fetchers.drop (place + 1), ?_, ?_⟩
  · rw [List.getElem_cons_drop, List.take_append_drop]
  · rw [List.length_take_of_le (Nat.le_of_lt inside)]

theorem set_middle (front back : List Fetcher) (fetcher other : Fetcher) :
    (front ++ fetcher :: back).set front.length other = front ++ other :: back := by simp

theorem perform?_eq_some_iff {source : Source Id} {crew next : Crew} {event : Event} :
    crew.perform? source event = some next ↔ Step source crew event next := by
  constructor
  · obtain ⟨results, fetchers, unstarted, later, requests⟩ := crew
    intro performed
    cases event with
    | start =>
      cases unstarted with
      | nil => cases performed
      | cons _ rest =>
        cases performed
        exact .start
    | refuse cause =>
      cases unstarted with
      | nil => cases performed
      | cons _ rest =>
        cases performed
        exact .refuse cause
    | ask place =>
      rw [perform?] at performed
      split at performed
      case h_2 => cases performed
      case h_1 position path there =>
        obtain ⟨front, back, rfl, rfl⟩ := exists_append_of_getElem? there
        cases performed
        rw [set_middle]
        exact .ask
    | answer place =>
      rw [perform?] at performed
      split at performed
      case h_2 => cases performed
      case h_1 position path there =>
        obtain ⟨front, back, rfl, rfl⟩ := exists_append_of_getElem? there
        cases performed
        rw [set_middle]
        exact .answer
    | crash place =>
      rw [perform?] at performed
      split at performed
      case h_2 => cases performed
      case h_1 fetcher there =>
        obtain ⟨front, back, rfl, rfl⟩ := exists_append_of_getElem? there
        dsimp only at performed
        split at performed
        case isFalse => cases performed
        case isTrue alive =>
          cases performed
          rw [set_middle]
          exact .crash alive
    | join =>
      rw [perform?] at performed
      split at performed
      case h_2 => cases performed
      case h_1 none first =>
        obtain rfl := none
        obtain rfl := first
        cases performed
        exact .join
    | turn =>
      rw [perform?] at performed
      split at performed
      case h_2 => cases performed
      case h_1 none nobody next =>
        obtain rfl := none
        obtain rfl := nobody
        obtain rfl := next
        cases performed
        exact .turn
  · intro step
    cases step with
    | start | refuse | join | turn => rfl
    | ask | answer => simp [perform?]
    | crash alive => simp [perform?, alive]

theorem run?_cons_eq_some_iff {source : Source Id} {crew final : Crew} {event : Event}
    {schedule : List Event} :
    crew.run? source (event :: schedule) = some final ↔
      ∃ next, Step source crew event next ∧ next.run? source schedule = some final := by
  simp only [run?, List.foldlM_cons, Option.bind_eq_bind, Option.bind_eq_some_iff,
    perform?_eq_some_iff]

theorem run?_keeps {source : Source Id} {P : Crew → Prop} {schedule : List Event}
    (keeps : ∀ crew event next, event ∈ schedule → Step source crew event next → P crew → P next)
    {crew final : Crew} (ran : crew.run? source schedule = some final) (holds : P crew) :
    P final := by
  induction schedule generalizing crew with
  | nil =>
    cases ran
    exact holds
  | cons event schedule ih =>
    obtain ⟨next, step, ran⟩ := run?_cons_eq_some_iff.mp ran
    refine ih (fun crew event next mem => ?_) ran ?_
    · exact keeps crew event next (List.mem_cons_of_mem _ mem)
    · exact keeps crew event next List.mem_cons_self step holds

section
variable {source : Source Id} {crew next : Crew} {event : Event}

/-! Threads -/

structure Fits (crew : Crew) : Prop where
  here : crew.fetchers.length + crew.unstarted.length ≤ batchSize
  later : ∀ batch ∈ crew.later, batch.length ≤ batchSize

theorem fits_ofPaths (paths : List Text) : (ofPaths paths).Fits where
  here := Nat.zero_le _
  later _ mem := length_le_of_mem_batches mem

theorem Step.fits (step : Step source crew event next) (fits : crew.Fits) : next.Fits := by
  obtain ⟨here, later⟩ := fits
  cases step with
  | start | refuse =>
    refine ⟨?_, later⟩
    simp only [List.length_append, List.length_cons, List.length_nil] at here ⊢
    omega
  | ask | answer | crash =>
    refine ⟨?_, later⟩
    simpa only [List.length_append, List.length_cons] using here
  | join =>
    refine ⟨?_, later⟩
    simp only [List.length_cons] at here ⊢
    omega
  | turn =>
    obtain ⟨first, later⟩ := List.forall_mem_cons.mp later
    refine ⟨?_, later⟩
    simpa using first

theorem Fits.inFlight_le (fits : crew.Fits) : crew.inFlight ≤ batchSize := by
  have alive : crew.inFlight ≤ crew.fetchers.length := List.length_filter_le _ _
  have here := fits.here
  omega

/-! Results -/

def prospects (source : Source Id) (crew : Crew) : List (Text × Except MissingAsset Asset.Record) :=
  crew.results ++ crew.fetchers.map (Fetcher.prospect source) ++
    (crew.unstarted ++ crew.later.flatten).map fun place => alone source place.1

theorem prospects_ofPaths (source : Source Id) (paths : List Text) :
    (ofPaths paths).prospects source = paths.map (alone source) := by
  rw [prospects, ofPaths, flatten_batches, List.map_nil, List.nil_append, List.nil_append]
  conv_rhs => rw [← List.zipIdx_map_fst 0 paths, List.map_map]
  rfl

/-- That one of some prospects has become that of a thread that failed. -/
inductive Spoiled : List (Text × Except MissingAsset Asset.Record) →
    List (Text × Except MissingAsset Asset.Record) → Prop
  | intro {reason : Text} (path : Text) (failure : IsThreadFailure reason) (front back result) :
    Spoiled (front ++ (path, result) :: back) (front ++ (path, .error ⟨path, reason⟩) :: back)

theorem Step.prospects (step : Step source crew event next) :
    next.prospects source = crew.prospects source ∨
      event.fails ∧ Spoiled (crew.prospects source) (next.prospects source) := by
  cases step with
  | start => exact .inl (by simp [Crew.prospects, Fetcher.prospect])
  | ask | answer => exact .inl (by simp [Crew.prospects, Fetcher.prospect, alone])
  | join | turn => exact .inl (by simp [Crew.prospects, Fetcher.prospect])
  | @refuse results fetchers path position rest later requests cause =>
    have spoiled := Spoiled.intro path (.inr ⟨cause, rfl⟩)
      (results ++ fetchers.map (Fetcher.prospect source))
      ((rest ++ later.flatten).map fun place => source.alone place.1) (source.fetchAsset path).run
    refine .inr ⟨rfl, ?_⟩
    simpa [Crew.prospects, Fetcher.prospect, Fetcher.failed, alone] using spoiled
  | @crash results front back unstarted later requests fetcher alive =>
    have spoiled := Spoiled.intro fetcher.path (.inl rfl)
      (results ++ front.map (Fetcher.prospect source))
      (back.map (Fetcher.prospect source) ++
        (unstarted ++ later.flatten).map fun place => source.alone place.1)
      (fetcher.prospect source).2
    have here : (fetcher.path, (fetcher.prospect source).2) = fetcher.prospect source :=
      Prod.ext (fetcher.prospect_fst source).symm rfl
    rw [here] at spoiled
    refine .inr ⟨rfl, ?_⟩
    simpa [Crew.prospects, Fetcher.failed, Fetcher.prospect] using spoiled

/-- An entry that has what comes of its path on its own, or the failure of its own thread. -/
def Settles (source : Source Id) (entry : Text × Except MissingAsset Asset.Record) : Prop :=
  entry.2 = (source.fetchAsset entry.1).run ∨
    ∃ reason, entry.2 = .error ⟨entry.1, reason⟩ ∧ IsThreadFailure reason

theorem Spoiled.map_fst {before after : List (Text × Except MissingAsset Asset.Record)}
    (spoiled : Spoiled before after) : after.map Prod.fst = before.map Prod.fst := by
  cases spoiled
  simp

theorem Spoiled.settles {before after : List (Text × Except MissingAsset Asset.Record)}
    (spoiled : Spoiled before after) (settle : ∀ entry ∈ before, Settles source entry) :
    ∀ entry ∈ after, Settles source entry := by
  cases spoiled with
  | intro path failure front back result =>
    intro entry mem
    rcases List.mem_append.mp mem with early | rest
    · exact settle entry (List.mem_append_left _ early)
    · rcases List.mem_cons.mp rest with rfl | late
      · exact .inr ⟨_, rfl, failure⟩
      · exact settle entry (List.mem_append_right _ (List.mem_cons_of_mem _ late))

structure Accounts (source : Source Id) (paths : List Text) (crew : Crew) : Prop where
  order : (crew.prospects source).map Prod.fst = paths
  settled : ∀ entry ∈ crew.prospects source, Settles source entry

theorem Step.accounts {paths : List Text} (step : Step source crew event next)
    (accounts : crew.Accounts source paths) : next.Accounts source paths := by
  obtain ⟨order, settled⟩ := accounts
  rcases step.prospects with same | ⟨-, spoiled⟩
  · exact ⟨same ▸ order, same ▸ settled⟩
  · exact ⟨spoiled.map_fst.trans order, spoiled.settles settled⟩

/-! Requests -/

def due (crew : Crew) : List (Nat × Text) :=
  crew.fetchers.flatMap Fetcher.due ++ (crew.unstarted ++ crew.later.flatten).map requestAt

/-- Requests that are made are no longer due, and no others are made. A thread that fails may leave
its own unmade. -/
theorem Step.requests (step : Step source crew event next) :
    (next.requests ++ next.due).Perm (crew.requests ++ crew.due) ∨
      event.fails ∧ (next.requests ++ next.due).Sublist (crew.requests ++ crew.due) := by
  cases step with
  | start | answer | join | turn => exact .inl (by simp [due, Fetcher.due, requestAt])
  | ask =>
    refine .inl ?_
    simp only [due, Fetcher.due, List.flatMap_append, List.flatMap_cons, List.append_assoc,
      List.nil_append]
    exact (List.perm_append_comm_assoc _ _ _).append_left _
  | refuse => exact .inr ⟨rfl, by simp [due, Fetcher.due, Fetcher.failed]⟩
  | crash => exact .inr ⟨rfl, by simp [due, Fetcher.due, Fetcher.failed]⟩

/-! Events -/

/-- The number of events until all is taken: up to four for a path and one for a batch. -/
def left (crew : Crew) : Nat :=
  crew.fetchers.length + crew.fetchers.countP Fetcher.isAlive +
    crew.fetchers.countP Fetcher.isStarted + 4 * crew.unstarted.length +
    4 * crew.later.flatten.length + crew.later.length

theorem Step.left_lt (step : Step source crew event next) : next.left < crew.left := by
  cases step with
  | start | refuse | ask | answer | join | turn =>
    simp only [left, Fetcher.failed, Fetcher.isAlive, Fetcher.isStarted, List.countP_append,
      List.countP_cons, List.countP_nil, List.length_append, List.length_cons, List.length_nil,
      List.flatten_cons, reduceIte, Bool.false_eq_true]
    omega
  | @crash _ front back _ _ _ fetcher alive =>
    obtain ⟨position, path, phase⟩ := fetcher
    cases phase with
    | ended result => cases alive
    | started | asking =>
      simp only [left, Fetcher.failed, Fetcher.isAlive, Fetcher.isStarted, List.countP_append,
        List.countP_cons, List.length_append, List.length_cons, reduceIte, Bool.false_eq_true]
      omega

theorem exists_step (source : Source Id) {crew : Crew} (goesOn : ¬crew.isOver) :
    ∃ event next, event.fails = false ∧ Step source crew event next := by
  obtain ⟨results, fetchers, unstarted, later, requests⟩ := crew
  cases unstarted with
  | cons _ _ => exact ⟨_, _, rfl, .start⟩
  | nil =>
    cases fetchers with
    | cons first rest =>
      obtain ⟨position, path, phase⟩ := first
      cases phase with
      | started => exact ⟨.ask 0, _, rfl, perform?_eq_some_iff.mp rfl⟩
      | asking => exact ⟨.answer 0, _, rfl, perform?_eq_some_iff.mp rfl⟩
      | ended result => exact ⟨_, _, rfl, .join⟩
    | nil =>
      cases later with
      | cons _ _ => exact ⟨_, _, rfl, .turn⟩
      | nil => exact absurd rfl goesOn

end

theorem length_add_left_le {source : Source Id} {schedule : List Event} {crew final : Crew}
    (ran : crew.run? source schedule = some final) : schedule.length + final.left ≤ crew.left := by
  induction schedule generalizing crew with
  | nil =>
    cases ran
    exact Nat.le_of_eq (Nat.zero_add _)
  | cons event schedule ih =>
    obtain ⟨next, step, ran⟩ := run?_cons_eq_some_iff.mp ran
    have less := step.left_lt
    have rest := ih ran
    rw [List.length_cons]
    omega

theorem exists_finish (source : Source Id) (crew : Crew) :
    ∃ schedule final, (∀ event ∈ schedule, event.fails = false) ∧
      crew.run? source schedule = some final ∧ final.isOver := by
  by_cases finished : crew.isOver
  · exact ⟨[], crew, nofun, rfl, finished⟩
  · obtain ⟨event, next, smooth, step⟩ := exists_step source finished
    have less := step.left_lt
    obtain ⟨schedule, final, all, ran, finished⟩ := exists_finish source next
    refine ⟨event :: schedule, final, ?_, run?_cons_eq_some_iff.mpr ⟨next, step, ran⟩, finished⟩
    exact List.forall_mem_cons.mpr ⟨smooth, all⟩
termination_by crew.left

theorem length_batches_le (items : List α) : (batches items).length ≤ items.length := by
  fun_induction batches items with
  | case1 => exact Nat.le_refl 0
  | case2 a rest ih =>
    have full : 0 < batchSize := by decide
    rw [List.length_drop, List.length_cons] at ih
    rw [List.length_cons, List.length_cons]
    omega

theorem left_ofPaths_le (paths : List Text) : (ofPaths paths).left ≤ 5 * paths.length := by
  have few := length_batches_le paths.zipIdx
  rw [List.length_zipIdx] at few
  simp only [left, ofPaths, flatten_batches, List.length_zipIdx, List.length_nil, List.countP_nil]
  omega

/-! At the end -/

theorem prospects_of_isOver (source : Source Id) {crew : Crew} (finished : crew.isOver) :
    crew.prospects source = crew.results := by
  simp only [isOver, Bool.and_eq_true, List.isEmpty_iff] at finished
  simp [prospects, finished]

theorem due_of_isOver {crew : Crew} (finished : crew.isOver) : crew.due = [] := by
  simp only [isOver, Bool.and_eq_true, List.isEmpty_iff] at finished
  simp [due, finished]

end Crew

def recordAt? (source : Source Id) (path : Text) : Option Asset.Record :=
  (source.fetch (Asset.relative path)).run.toOption.map (recordOf path)

def missingAt? (source : Source Id) (path : Text) : Option MissingAsset :=
  match (source.fetch (Asset.relative path)).run with
  | .ok _ => none
  | .error e => some ⟨path, e.message⟩

theorem results_eq_filterMap (source : Source Id) (paths : List Text) :
    source.results paths =
      (paths.filterMap source.recordAt?, paths.filterMap source.missingAt?) := by
  unfold results
  induction paths with
  | nil => rfl
  | cons path paths ih =>
    rw [List.map_cons, fetchAsset_run, List.filterMap_cons, List.filterMap_cons, recordAt?,
      missingAt?]
    cases (source.fetch (Asset.relative path)).run with
    | ok fetched => rw [settle, sortOut, ih]; rfl
    | error e => rw [settle, sortOut, ih]; rfl

/-- Fetching as it is when paths are asked for one after another: records and missing assets are in
the order of their paths, and each bears its own path with the bytes or the reason that the source
answers for it. -/
structure Partition (source : Source Id) (paths : List Text)
    (outcome : List Asset.Record × List MissingAsset) : Prop where
  alone : outcome = (source.fetchAssets paths).run
  fetched : outcome.1 = paths.filterMap source.recordAt?
  missing : outcome.2 = paths.filterMap source.missingAt?
  length : outcome.1.length + outcome.2.length = paths.length
  bytes : ∀ record ∈ outcome.1, ∃ fetched, record.bytes = fetched.bytes ∧
    (source.fetch (Asset.relative record.path)).run = .ok fetched
  reason : ∀ lost ∈ outcome.2, ∃ e, lost.reason = SourceError.message e ∧
    (source.fetch (Asset.relative lost.path)).run = .error e

theorem partition_results (source : Source Id) (paths : List Text) :
    Partition source paths (source.results paths) := by
  have parts := results_eq_filterMap source paths
  refine ⟨(fetchAssets_run source paths).symm, congrArg Prod.fst parts, congrArg Prod.snd parts,
    length_results source paths, fun record mem => ?_, fun lost mem => ?_⟩
  · obtain ⟨path, -, fetched, answer, rfl⟩ := source.mem_results.mp mem
    exact ⟨fetched, rfl, answer⟩
  · rw [parts] at mem
    obtain ⟨path, -, found⟩ := List.mem_filterMap.mp mem
    rw [missingAt?] at found
    split at found
    case h_1 => cases found
    case h_2 e answer =>
      cases found
      exact ⟨e, rfl, answer⟩

def requestsFor (paths : List Text) : List (Nat × Text) := paths.zipIdx.map requestAt

theorem nodup_positions (paths : List Text) : ((requestsFor paths).map Prod.fst).Nodup := by
  have positions : (requestsFor paths).map Prod.fst = List.range' 0 paths.length := by
    rw [requestsFor, List.map_map, ← List.zipIdx_map_snd]
    rfl
  rw [positions]
  exact List.nodup_range'

namespace Crew

theorem due_ofPaths (paths : List Text) : (ofPaths paths).due = requestsFor paths := by
  simp [due, ofPaths, requestsFor]

section
variable {source : Source Id} {paths : List Text} {schedule : List Event} {crew : Crew}
  (ran : (ofPaths paths).run? source schedule = some crew)
include ran

theorem fits_of_run? : crew.Fits :=
  run?_keeps (fun _ _ _ _ step => step.fits) ran (fits_ofPaths paths)

theorem accounts_of_run? : crew.Accounts source paths := by
  refine run?_keeps (fun _ _ _ _ step => step.accounts) ran ?_
  have start := prospects_ofPaths source paths
  refine ⟨?_, fun entry mem => ?_⟩
  · rw [start, List.map_map]
    exact List.map_id _
  · rw [start] at mem
    obtain ⟨path, -, rfl⟩ := List.mem_map.mp mem
    exact .inl rfl

theorem subperm_of_run? : (crew.requests ++ crew.due).Subperm (requestsFor paths) := by
  refine run?_keeps (P := fun crew => (crew.requests ++ crew.due).Subperm (requestsFor paths))
    (fun _ _ _ _ step kept => ?_) ran ?_
  · rcases step.requests with perm | ⟨-, sublist⟩
    · exact perm.subperm.trans kept
    · exact sublist.subperm.trans kept
  · rw [due_ofPaths]
    exact List.Subperm.refl _

theorem perm_of_run? (smooth : ∀ event ∈ schedule, event.fails = false) :
    (crew.requests ++ crew.due).Perm (requestsFor paths) := by
  refine run?_keeps (P := fun crew => (crew.requests ++ crew.due).Perm (requestsFor paths))
    (fun _ event _ mem step kept => ?_) ran ?_
  · rcases step.requests with perm | ⟨fails, -⟩
    · exact perm.trans kept
    · simp [smooth event mem] at fails
  · rw [due_ofPaths]
    exact .refl _

theorem prospects_of_run? (smooth : ∀ event ∈ schedule, event.fails = false) :
    crew.prospects source = paths.map source.alone := by
  refine run?_keeps (P := fun crew => crew.prospects source = paths.map source.alone)
    (fun _ event _ mem step kept => ?_) ran (prospects_ofPaths source paths)
  rcases step.prospects with same | ⟨fails, -⟩
  · exact same.trans kept
  · simp [smooth event mem] at fails

theorem outcome_of_run? (smooth : ∀ event ∈ schedule, event.fails = false)
    (finished : crew.isOver) : crew.outcome = source.results paths := by
  have results : crew.results = paths.map source.alone :=
    (prospects_of_isOver source finished).symm.trans (prospects_of_run? ran smooth)
  rw [outcome, results, List.map_map]
  rfl

end

/-- How far a crew has come with some paths after a schedule: its threads are not too many, it has
made requests for different positions, each for the path that is there, the schedule is not long,
and it can be brought to an end. -/
structure Proceeds (source : Source Id) (paths : List Text) (schedule : List Event)
    (crew : Crew) : Prop where
  inFlight : crew.inFlight ≤ 16
  once : (crew.requests.map Prod.fst).Nodup
  asked : ∀ position request, (position, request) ∈ crew.requests →
    paths[position]?.map Asset.relative = some request
  bounded : schedule.length ≤ 5 * paths.length
  ends : ∃ rest final, (∀ event ∈ rest, event.fails = false) ∧
    crew.run? source rest = some final ∧ final.isOver

theorem proceeds_of_run? {source : Source Id} {paths : List Text} {schedule : List Event}
    {crew : Crew} (ran : (ofPaths paths).run? source schedule = some crew) :
    crew.Proceeds source paths schedule := by
  have made : crew.requests.Subperm (requestsFor paths) :=
    (List.sublist_append_left _ _).subperm.trans (subperm_of_run? ran)
  refine ⟨(fits_of_run? ran).inFlight_le, ?_, fun position request mem => ?_, ?_,
    exists_finish source crew⟩
  · obtain ⟨kept, perm, sublist⟩ := made
    exact (perm.map _).nodup ((sublist.map _).nodup (nodup_positions paths))
  · obtain ⟨⟨path, _⟩, there, same⟩ := List.mem_map.mp (made.subset mem)
    cases same
    rw [List.mk_mem_zipIdx_iff_getElem?.mp there]
    rfl
  · have spent := length_add_left_le ran
    have budget := left_ofPaths_le paths
    omega

/-- What a crew has when all threads have been joined: for each path in its place what comes of it
on its own, or else that its own thread failed. When no thread failed it has asked for each position
once, and has what is fetched one after another. -/
structure Concludes (source : Source Id) (paths : List Text) (schedule : List Event)
    (crew : Crew) : Prop where
  order : crew.results.map Prod.fst = paths
  settled : ∀ entry ∈ crew.results, Settles source entry
  requests : (∀ event ∈ schedule, event.fails = false) → crew.requests.Perm (requestsFor paths)
  partition : (∀ event ∈ schedule, event.fails = false) → Partition source paths crew.outcome

theorem concludes_of_run? {source : Source Id} {paths : List Text} {schedule : List Event}
    {crew : Crew} (ran : (ofPaths paths).run? source schedule = some crew)
    (finished : crew.isOver) : crew.Concludes source paths schedule := by
  have accounts := accounts_of_run? ran
  have results := prospects_of_isOver source finished
  refine ⟨results ▸ accounts.order, results ▸ accounts.settled, fun smooth => ?_, fun smooth => ?_⟩
  · simpa [due_of_isOver finished] using perm_of_run? ran smooth
  · rw [outcome_of_run? ran smooth finished]
    exact partition_results source paths

/-- Threads fetch what is fetched one after another, in whatever order they come to their ends. -/
theorem run?_outcome {source : Source Id} {paths : List Text} {schedule : List Event} {crew : Crew}
    (ran : (ofPaths paths).run? source schedule = some crew) :
    crew.Proceeds source paths schedule ∧
      (crew.isOver → crew.Concludes source paths schedule) :=
  ⟨proceeds_of_run? ran, concludes_of_run? ran⟩

def picture : Source Id where
  root := ['.']
  fetch path := pure <|
    if path = "assets/a.png".toList then .ok ⟨[1], none⟩ else .error (.notFound path)

def twoBatches : List Text :=
  List.replicate 15 "/assets/a.png".toList ++ ["/assets/b.png".toList, "/assets/a.png".toList]

/-- Threads of the first batch ask in the order of their paths and are answered the other way round.
-/
def backwards : List Event :=
  [.turn] ++ List.replicate 16 .start ++ (List.range 16).map .ask ++
    (List.range 16).reverse.map .answer ++ List.replicate 16 .join ++
    [.turn, .start, .ask 0, .answer 0, .join]

theorem run?_outcome_backwards : ∃ crew,
    (ofPaths twoBatches).run? picture backwards = some crew ∧
    (∀ event ∈ backwards, event.fails = false) ∧ crew.isOver ∧
    crew.Proceeds picture twoBatches backwards ∧ crew.Concludes picture twoBatches backwards ∧
    (crew.outcome.1.map Asset.Record.path, crew.outcome.2.map MissingAsset.path) =
      (List.replicate 16 "/assets/a.png".toList, ["/assets/b.png".toList]) := by
  have cut : ofPaths twoBatches =
      ⟨[], [], [], [twoBatches.zipIdx.take 16, [("/assets/a.png".toList, 16)]], []⟩ := by
    simp [ofPaths, twoBatches, batches, batchSize]
  have evaluated : ((ofPaths twoBatches).run? picture backwards).map
      (fun crew => (crew.isOver, crew.outcome.1.map Asset.Record.path,
        crew.outcome.2.map MissingAsset.path)) =
      some (true, List.replicate 16 "/assets/a.png".toList, ["/assets/b.png".toList]) := by
    rw [cut]
    decide +kernel
  obtain ⟨crew, ran, at_end⟩ := Option.map_eq_some_iff.mp evaluated
  obtain ⟨finished, parts⟩ := Prod.mk.inj at_end
  obtain ⟨proceeds, concludes⟩ := run?_outcome ran
  exact ⟨crew, ran, by decide, finished, proceeds, concludes finished, parts⟩

end Crew
end Pagecraft.Source
