import Pagecraft.Proofs.Content.Leaves
import Pagecraft.Proofs.Text.Keyed

/-! Visiting a tree and rebuilding it. A callback is asked at the leaves in their order and once at
each, whether or not a tree is made of its answers, and whatever it remembers of earlier calls. The
tree that is made differs from the first one in its texts only. A part of a tree can be looked up
before its leaves are replaced or after. -/
namespace Pagecraft

section
variable {σ α β : Type} {action : StateM σ α} {s after : σ} {a : α}

theorem run_bind_of_run_eq (ran : action.run s = (a, after)) (next : α → StateM σ β) :
    (action >>= next).run s = (next a).run after := by
  rw [StateT.run_bind, ran]
  rfl

theorem run_map_of_run_eq (ran : action.run s = (a, after)) (f : α → β) :
    (f <$> action).run s = (f a, after) := by
  rw [StateT.run_map, ran]
  rfl

end

namespace Node

/-- That two trees differ at most in their texts. -/
inductive SameShape : Node → Node → Prop
  | null : SameShape .null .null
  | flag (value : Bool) : SameShape (.flag value) (.flag value)
  | number (value : Json.Number) : SameShape (.number value) (.number value)
  | text (value other : Text) : SameShape (.text value) (.text other)
  | list {items others : List Node} (all : List.Forall₂ SameShape items others) :
    SameShape (.list items) (.list others)
  | group {fields others : List (Text × Node)}
    (names : fields.map Prod.fst = others.map Prod.fst)
    (all : List.Forall₂ SameShape (fields.map Prod.snd) (others.map Prod.snd)) :
    SameShape (.group fields) (.group others)

def logged {σ α : Type} (f : Text → StateM σ α) (leaf : Text) :
    StateM (σ × List (Text × α)) α := fun (s, calls) =>
  let (answer, s) := (f leaf).run s
  (answer, s, calls ++ [(leaf, answer)])

theorem traverseFields_eq [Monad m] [LawfulMonad m] (f : Text → m (Option Text))
    (fields : List (Text × Node)) :
    traverseFields f fields =
      (fields.map Prod.fst).zip <$> traverseItems f (fields.map Prod.snd) := by
  induction fields with
  | nil => simp [traverseFields, traverseItems]
  | cons entry fields ih =>
    obtain ⟨name, value⟩ := entry
    simp [traverseFields, traverseItems, ih]

theorem visitFields_eq [Monad m] (f : Text → m Unit) (fields : List (Text × Node)) :
    visitFields f fields = visitItems f (fields.map Prod.snd) := by
  induction fields with
  | nil => rfl
  | cons entry fields ih =>
    rw [visitFields, ih]
    rfl

theorem visit_eq_forM [Monad m] [LawfulMonad m] (f : Text → m Unit) (node : Node) :
    node.visit f = node.leaves.forM f := by
  have items (items : List Node) (each : ∀ item ∈ items, item.visit f = item.leaves.forM f) :
      visitItems f items = (items.flatMap leaves).forM f := by
    induction items with
    | nil => rfl
    | cons item items ih =>
      have rest := ih fun other mem => each other (List.mem_cons_of_mem _ mem)
      rw [visitItems, each item List.mem_cons_self, rest, List.flatMap_cons]
      simp only [List.forM_eq_forM, List.forM_append]
  induction node using induct with
  | null | flag | number => rfl
  | text value => simp [visit, List.forM_eq_forM]
  | list parts ih => rw [visit, items parts ih, leaves_list]
  | group fields ih =>
    have values := items (fields.map Prod.snd) (List.forall_mem_map.mpr ih)
    rw [visit, visitFields_eq, values, leaves_group, List.flatMap_map]

theorem state_visit {σ : Type} (f : Text → StateM σ Unit) (node : Node) (s : σ) :
    ((node.visit f).run s).2 = node.leaves.foldl (fun s leaf => ((f leaf).run s).2) s := by
  rw [visit_eq_forM]
  induction node.leaves generalizing s with
  | nil => rfl
  | cons leaf leaves ih => exact ih ((f leaf).run s).2

section
variable {σ : Type} {f : Text → StateM σ (Option Text)}

/-- What comes of a tree when a callback is asked at its leaves, from one state to another: its
calls with their answers, whether it is asked to rebuild the tree or on a visit, and the tree that
is made of the answers. -/
structure Pass (f : Text → StateM σ (Option Text)) (s : σ) (node : Node)
    (calls : List (Text × Option Text)) (result : Node) (after : σ) : Prop where
  rebuilt : (node.traverse f).run s = (result, after)
  written : ∀ log, (node.traverse (logged f)).run (s, log) = (result, after, log ++ calls)
  visited : ∀ log, (node.visit fun leaf => discard (logged f leaf)).run (s, log) =
    ((), after, log ++ calls)
  asked : calls.map Prod.fst = node.leaves
  left : after = node.leaves.foldl (fun s leaf => ((f leaf).run s).2) s
  shape : SameShape node result
  filled : result.leaves = calls.map fun call => call.2.getD call.1

structure PassItems (f : Text → StateM σ (Option Text)) (s : σ) (items : List Node)
    (calls : List (Text × Option Text)) (results : List Node) (after : σ) : Prop where
  rebuilt : (traverseItems f items).run s = (results, after)
  written : ∀ log, (traverseItems (logged f) items).run (s, log) = (results, after, log ++ calls)
  visited : ∀ log, (visitItems (fun leaf => discard (logged f leaf)) items).run (s, log) =
    ((), after, log ++ calls)
  asked : calls.map Prod.fst = items.flatMap leaves
  left : after = (items.flatMap leaves).foldl (fun s leaf => ((f leaf).run s).2) s
  shape : List.Forall₂ SameShape items results
  filled : results.flatMap leaves = calls.map fun call => call.2.getD call.1

theorem PassItems.nil (s : σ) : PassItems f s [] [] [] s where
  rebuilt := rfl
  written log := by
    rw [List.append_nil]
    rfl
  visited log := by
    rw [List.append_nil]
    rfl
  asked := rfl
  left := rfl
  shape := .nil
  filled := rfl

theorem PassItems.cons {s middle after : σ} {item result : Node} {items results : List Node}
    {calls further : List (Text × Option Text)} (first : Pass f s item calls result middle)
    (rest : PassItems f middle items further results after) :
    PassItems f s (item :: items) (calls ++ further) (result :: results) after where
  rebuilt := by
    rw [traverseItems, run_bind_of_run_eq first.rebuilt, run_bind_of_run_eq rest.rebuilt]
    rfl
  written log := by
    rw [traverseItems, run_bind_of_run_eq (first.written log), run_bind_of_run_eq (rest.written _),
      List.append_assoc]
    rfl
  visited log := by
    rw [visitItems, run_bind_of_run_eq (first.visited log), rest.visited, List.append_assoc]
  asked := by rw [List.map_append, first.asked, rest.asked, List.flatMap_cons]
  left := by rw [List.flatMap_cons, List.foldl_append, ← first.left, rest.left]
  shape := .cons first.shape rest.shape
  filled := by rw [List.flatMap_cons, first.filled, rest.filled, List.map_append]

theorem exists_passItems {items : List Node}
    (each : ∀ item ∈ items, ∀ s, ∃ calls result after, Pass f s item calls result after) (s : σ) :
    ∃ calls results after, PassItems f s items calls results after := by
  induction items generalizing s with
  | nil => exact ⟨[], [], s, .nil s⟩
  | cons item items ih =>
    obtain ⟨calls, result, middle, first⟩ := each item List.mem_cons_self s
    obtain ⟨further, results, after, rest⟩ :=
      ih (fun other mem => each other (List.mem_cons_of_mem _ mem)) middle
    exact ⟨calls ++ further, result :: results, after, .cons first rest⟩

theorem Pass.list {s after : σ} {items results : List Node} {calls : List (Text × Option Text)}
    (all : PassItems f s items calls results after) :
    Pass f s (.list items) calls (.list results) after where
  rebuilt := by
    rw [traverse, run_bind_of_run_eq all.rebuilt]
    rfl
  written log := by
    rw [traverse, run_bind_of_run_eq (all.written log)]
    rfl
  visited := all.visited
  asked := by rw [all.asked, leaves_list]
  left := by rw [leaves_list, all.left]
  shape := .list all.shape
  filled := by rw [leaves_list, all.filled]

theorem Pass.group {s after : σ} {fields : List (Text × Node)} {results : List Node}
    {calls : List (Text × Option Text)}
    (all : PassItems f s (fields.map Prod.snd) calls results after) :
    Pass f s (.group fields) calls (.group ((fields.map Prod.fst).zip results)) after := by
  have length : (fields.map Prod.fst).length = results.length := by
    rw [← all.shape.length_eq, List.length_map, List.length_map]
  have names : ((fields.map Prod.fst).zip results).map Prod.fst = fields.map Prod.fst :=
    List.map_fst_zip (Nat.le_of_eq length)
  have values : ((fields.map Prod.fst).zip results).map Prod.snd = results :=
    List.map_snd_zip (Nat.le_of_eq length.symm)
  constructor
  case rebuilt =>
    rw [traverse, traverseFields_eq, run_bind_of_run_eq (run_map_of_run_eq all.rebuilt _)]
    rfl
  case written =>
    intro log
    rw [traverse, traverseFields_eq, run_bind_of_run_eq (run_map_of_run_eq (all.written log) _)]
    rfl
  case visited =>
    intro log
    rw [visit, visitFields_eq, all.visited]
  case asked => rw [all.asked, leaves_group, List.flatMap_map]
  case left => rw [leaves_group, ← List.flatMap_map Prod.snd leaves, all.left]
  case shape =>
    apply SameShape.group names.symm
    rw [values]
    exact all.shape
  case filled =>
    have results : (Node.group ((fields.map Prod.fst).zip results)).leaves =
        results.flatMap leaves := by
      rw [leaves_group, ← List.flatMap_map Prod.snd leaves, values]
    rw [results, all.filled]

theorem exists_pass (f : Text → StateM σ (Option Text)) (node : Node) (s : σ) :
    ∃ calls result after, Pass f s node calls result after := by
  induction node using induct generalizing s with
  | null | flag | number =>
    refine ⟨[], _, s, rfl, fun log => ?_, fun log => ?_, rfl, rfl, by constructor, rfl⟩
    all_goals rw [List.append_nil]; rfl
  | text value =>
    refine ⟨[(value, ((f value).run s).1)], .text (((f value).run s).1.getD value),
      ((f value).run s).2, rfl, fun log => rfl, fun log => rfl, rfl, rfl, .text _ _, ?_⟩
    rw [leaves_text]
    rfl
  | list items ih =>
    obtain ⟨calls, results, after, all⟩ := exists_passItems ih s
    exact ⟨calls, .list results, after, .list all⟩
  | group fields ih =>
    obtain ⟨calls, results, after, all⟩ := exists_passItems (List.forall_mem_map.mpr ih) s
    exact ⟨calls, _, after, .group all⟩

end

theorem eq_of_append_items {items firsts seconds : List Node}
    (all : List.Forall₂ SameShape items firsts) (all' : List.Forall₂ SameShape items seconds)
    (each : ∀ item ∈ items, ∀ {first second : Node}, SameShape item first →
      SameShape item second → ∀ {rest rest' : List Text},
        first.leaves ++ rest = second.leaves ++ rest' → first = second ∧ rest = rest')
    {rest rest' : List Text}
    (same : firsts.flatMap leaves ++ rest = seconds.flatMap leaves ++ rest') :
    firsts = seconds ∧ rest = rest' := by
  induction all generalizing seconds with
  | nil =>
    cases all'
    exact ⟨rfl, same⟩
  | cons here _ ih =>
    cases all' with
    | cons here' there' =>
      simp only [List.flatMap_cons, List.append_assoc] at same
      obtain ⟨rfl, later⟩ := each _ List.mem_cons_self here here' same
      obtain ⟨rfl, rfl⟩ := ih there' (fun item mem => each item (List.mem_cons_of_mem _ mem)) later
      exact ⟨rfl, rfl⟩

/-- A shape and the texts in it make one tree. The texts of a part end where those of the next one
begin, so this is stated with the texts that follow. -/
theorem SameShape.eq_of_append {node first second : Node} (shape : SameShape node first)
    (shape' : SameShape node second) {rest rest' : List Text}
    (same : first.leaves ++ rest = second.leaves ++ rest') : first = second ∧ rest = rest' := by
  induction node using induct generalizing first second rest rest' with
  | null | flag | number =>
    cases shape
    cases shape'
    exact ⟨rfl, same⟩
  | text value =>
    cases shape
    cases shape'
    rw [leaves_text, leaves_text] at same
    obtain ⟨rfl, rfl⟩ := List.cons.inj same
    exact ⟨rfl, rfl⟩
  | list parts ih =>
    cases shape with
    | list all =>
      cases shape' with
      | list all' =>
        rw [leaves_list, leaves_list] at same
        obtain ⟨rfl, rfl⟩ := eq_of_append_items all all' ih same
        exact ⟨rfl, rfl⟩
  | group fields ih =>
    cases shape with
    | @group _ firsts names all =>
      cases shape' with
      | @group _ seconds names' all' =>
        rw [leaves_group, leaves_group, ← List.flatMap_map Prod.snd leaves,
          ← List.flatMap_map Prod.snd leaves] at same
        obtain ⟨values, rfl⟩ := eq_of_append_items all all' (List.forall_mem_map.mpr ih) same
        have pairs := List.zip_of_prod (names.symm.trans names') values
        rw [pairs.trans (List.zip_of_prod rfl rfl).symm]
        exact ⟨rfl, rfl⟩

/-! Looking up and rebuilding -/

theorem child?_mapLeaves (f : Text → Option Text) (key : Text) (node : Node) :
    (node.mapLeaves f).child? key = (node.child? key).map (mapLeaves f) := by
  cases node with
  | null | flag | number | text => rfl
  | list items =>
    rw [mapLeaves_list, child?, child?, Option.map_bind]
    apply congrArg key.toIndex?.bind
    funext position
    exact List.getElem?_map
  | group fields =>
    rw [mapLeaves_group]
    exact Keyed.get?_map (mapLeaves f) key fields

theorem item?_mapLeaves (f : Text → Option Text) (position : Nat) (node : Node) :
    (node.mapLeaves f).item? position = (node.item? position).map (mapLeaves f) := by
  cases node with
  | null | flag | number | text => rfl
  | list items =>
    rw [mapLeaves_list]
    exact List.getElem?_map
  | group fields =>
    rw [mapLeaves_group]
    rfl

theorem foldlM_mapLeaves {f : Text → Option Text} {step : Node → α → Option Node}
    (each : ∀ a node, step (node.mapLeaves f) a = (step node a).map (mapLeaves f))
    (steps : List α) (node : Node) :
    steps.foldlM step (node.mapLeaves f) = (steps.foldlM step node).map (mapLeaves f) := by
  induction steps generalizing node with
  | nil => rfl
  | cons a steps ih =>
    rw [List.foldlM_cons, List.foldlM_cons, each]
    cases step node a with
    | none => rfl
    | some next => exact ih next

theorem step?_mapLeaves (f : Text → Option Text) (segment : Segment) (node : Node) :
    (node.mapLeaves f).step? segment = (node.step? segment).map (mapLeaves f) := by
  let item : Node → Nat → Option Node := fun node position => node.item? position
  have walk (start : Node) : segment.positions.foldlM item (start.mapLeaves f) =
      (segment.positions.foldlM item start).map (mapLeaves f) :=
    foldlM_mapLeaves (item?_mapLeaves f) segment.positions start
  unfold step?
  cases segment.key with
  | none => exact walk node
  | some key =>
    dsimp only
    rw [child?_mapLeaves]
    cases node.child? key with
    | none => rfl
    | some start => exact walk start

theorem lookup?_mapLeaves (f : Text → Option Text) (path : Text) (node : Node) :
    (node.mapLeaves f).lookup? path = (node.lookup? path).map (mapLeaves f) := by
  unfold lookup?
  split
  · rfl
  · apply foldlM_mapLeaves
    intro segment node
    cases Segment.ofText? segment with
    | none => rfl
    | some segment => exact step?_mapLeaves f segment node

theorem traverse_pure [Monad m] [LawfulMonad m] (f : Text → Option Text) (node : Node) :
    node.traverse (fun leaf => (pure (f leaf) : m (Option Text))) = pure (node.mapLeaves f) := by
  have items (items : List Node)
      (each : ∀ item ∈ items, item.traverse (fun leaf => (pure (f leaf) : m (Option Text))) =
        pure (item.mapLeaves f)) :
      traverseItems (fun leaf => (pure (f leaf) : m (Option Text))) items =
        pure (items.map (mapLeaves f)) := by
    induction items with
    | nil => rfl
    | cons item items ih =>
      have rest := ih fun other mem => each other (List.mem_cons_of_mem _ mem)
      rw [traverseItems, each item List.mem_cons_self, rest, pure_bind, pure_bind, List.map_cons]
  induction node using induct with
  | null | flag | number => rfl
  | text value => rw [traverse, pure_bind, mapLeaves]
  | list parts ih => rw [traverse, items parts ih, pure_bind, mapLeaves_list]
  | group fields ih =>
    have values := items (fields.map Prod.snd) (List.forall_mem_map.mpr ih)
    rw [traverse, traverseFields_eq, values, map_pure, pure_bind, mapLeaves_group, List.map_map,
      List.zip_map']
    rfl

/-- Whatever a callback remembers and answers, it is asked the same when it rebuilds a tree as on a
visit, at the leaves one after another, and what is made is the one tree of that shape that has the
answers for texts. If it remembers nothing, a path leads in the tree that is made to what is made of
the part that it addresses, and nowhere if it led nowhere. -/
theorem traverse_agrees_visit (node : Node) :
    (∀ (σ : Type) (f : Text → StateM σ (Option Text)) (s : σ), ∃ calls result after,
      Pass f s node calls result after ∧
      ∀ other, other = result ↔
        SameShape node other ∧ other.leaves = calls.map fun call => call.2.getD call.1) ∧
    ∀ f : Text → Option Text,
      (∀ (σ : Type) (s : σ),
        (node.traverse fun leaf => (pure (f leaf) : StateM σ (Option Text))).run s =
          (node.mapLeaves f, s)) ∧
      ∀ path, (node.mapLeaves f).lookup? path = (node.lookup? path).map (mapLeaves f) := by
  refine ⟨fun σ f s => ?_, fun f => ⟨fun σ s => ?_, fun path => lookup?_mapLeaves f path node⟩⟩
  · obtain ⟨calls, result, after, pass⟩ := exists_pass f node s
    refine ⟨calls, result, after, pass, fun other => ⟨?_, ?_⟩⟩
    · rintro rfl
      exact ⟨pass.shape, pass.filled⟩
    · rintro ⟨shape, filled⟩
      have texts : other.leaves ++ [] = result.leaves ++ [] := by rw [filled, pass.filled]
      exact (shape.eq_of_append pass.shape texts).1
  · rw [traverse_pure]
    rfl

def numbered (leaf : Text) : StateM Nat (Option Text) := do
  let count ← getModify (· + 1)
  return if leaf.isEmpty then none else some (Text.ofNat (count + 1) ++ leaf)

example :
    ((Node.group [(['a'], .list [.text ['x'], .text [], .null]), (['b'], .text ['y'])]).traverse
      numbered).run 0 =
    (.group [(['a'], .list [.text ['1', 'x'], .text [], .null]), (['b'], .text ['3', 'y'])], 3) :=
  rfl

end Node
end Pagecraft
