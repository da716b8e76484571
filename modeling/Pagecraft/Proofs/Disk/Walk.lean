import Mathlib.Data.List.Nodup
import Pagecraft.Proofs.Disk.Writing
import Pagecraft.Proofs.Text.Keyed

/-! A walk through a directory. It comes to every regular file of the tree once, at its place,
unless the path of something on the way is too long to be opened. -/
namespace Pagecraft

namespace FileTree

@[elab_as_elim]
theorem induct {motive : FileTree → Prop} (file : ∀ bytes, motive (.file bytes))
    (folder : ∀ entries : List (Text × FileTree), (∀ entry ∈ entries, motive entry.2) →
      motive (.folder entries))
    (link : ∀ target, motive (.link target)) : (tree : FileTree) → motive tree
  | .file bytes => file bytes
  | .folder entries => folder entries fun (_, tree) _ => induct file folder link tree
  | .link target => link target
termination_by tree => sizeOf tree
decreasing_by
  have := List.sizeOf_lt_of_mem ‹_ ∈ entries›
  simp only [FileTree.folder.sizeOf_spec, Prod.mk.sizeOf_spec] at this ⊢
  omega

def IsName (name : Text) : Prop := name ≠ [] ∧ '/' ∉ name

instance (name : Text) : Decidable (IsName name) := inferInstanceAs (Decidable (_ ∧ _))

/-- What a file system keeps to. A folder has its entries in the order of their names, none of them
twice; no name is empty or has a slash. -/
inductive Legal : FileTree → Prop
  | file (bytes : Bytes) : Legal (.file bytes)
  | folder {entries : List (Text × FileTree)} (sorted : Keyed.Sorted entries)
      (named : ∀ entry ∈ entries, IsName entry.1)
      (parts : ∀ entry ∈ entries, Legal entry.2) : Legal (.folder entries)
  | link (target : Text) : Legal (.link target)

mutual

def placed : FileTree → List (Place × Bytes)
  | .file bytes => [([], bytes)]
  | .folder entries => placedEntries entries
  | .link _ => []

def placedEntries : List (Text × FileTree) → List (Place × Bytes)
  | [] => []
  | (name, tree) :: entries =>
    (placed tree).map (fun (place, bytes) => (name :: place, bytes)) ++ placedEntries entries

end

theorem placedEntries_eq (entries : List (Text × FileTree)) :
    placedEntries entries =
      entries.flatMap fun entry => entry.2.placed.map fun file => (entry.1 :: file.1, file.2) := by
  induction entries with
  | nil => rfl
  | cons entry entries ih => rw [placedEntries, ih, List.flatMap_cons]

theorem filesOfEntries_eq (entries : List (Text × FileTree)) :
    filesOfEntries entries =
      entries.flatMap fun entry => entry.2.files.map fun file =>
        (if file.1.isEmpty then entry.1 else entry.1 ++ '/' :: file.1, file.2) := by
  induction entries with
  | nil => rfl
  | cons entry entries ih => rw [filesOfEntries, ih, List.flatMap_cons]

theorem placed_folder (entries : List (Text × FileTree)) :
    (FileTree.folder entries).placed =
      entries.flatMap fun entry => entry.2.placed.map fun file => (entry.1 :: file.1, file.2) := by
  rw [placed, placedEntries_eq]

namespace Legal
variable {entries : List (Text × FileTree)} (legal : (FileTree.folder entries).Legal)
include legal

theorem get?_eq_some_iff {name : Text} {tree : FileTree} :
    Keyed.get? name entries = some tree ↔ (name, tree) ∈ entries := by
  cases legal with
  | folder sorted named parts =>
    exact ⟨Keyed.mem_of_get?, Keyed.get?_of_mem sorted.nodup_keys⟩

theorem part {entry : Text × FileTree} (mem : entry ∈ entries) : entry.2.Legal := by
  cases legal with
  | folder sorted named parts => exact parts entry mem

theorem isName {entry : Text × FileTree} (mem : entry ∈ entries) : IsName entry.1 := by
  cases legal with
  | folder sorted named parts => exact named entry mem

theorem get?_cons_eq_some_iff {name : Text} {place : Place} {node : FileTree} :
    (FileTree.folder entries).get? (name :: place) = some node ↔
      ∃ tree, (name, tree) ∈ entries ∧ tree.get? place = some node := by
  rw [get?, Option.bind_eq_some_iff]
  exact exists_congr fun tree => and_congr_left' legal.get?_eq_some_iff

end Legal

theorem isName_of_get? {tree node : FileTree} (legal : tree.Legal) {place : Place}
    (there : tree.get? place = some node) : ∀ name ∈ place, IsName name := by
  induction place generalizing tree with
  | nil => exact nofun
  | cons first place ih =>
    cases tree with
    | file bytes => cases there
    | link target => cases there
    | folder entries =>
      obtain ⟨tree, mem, there⟩ := legal.get?_cons_eq_some_iff.mp there
      exact List.forall_mem_cons.mpr ⟨legal.isName mem, ih (legal.part mem) there⟩

theorem mem_placed_iff {tree : FileTree} (legal : tree.Legal) {place : Place} {bytes : Bytes} :
    (place, bytes) ∈ tree.placed ↔ tree.get? place = some (.file bytes) := by
  induction place generalizing tree with
  | nil =>
    cases tree with
    | file old => simp [placed, get?, eq_comm]
    | folder entries => simp [placed_folder, get?]
    | link target => simp [placed, get?]
  | cons name place ih =>
    cases tree with
    | file old => simp [placed, get?]
    | link target => simp [placed, get?]
    | folder entries =>
      rw [placed_folder, List.mem_flatMap, legal.get?_cons_eq_some_iff]
      constructor
      · rintro ⟨⟨_, child⟩, mem, file⟩
        obtain ⟨⟨_, _⟩, inside, same⟩ := List.mem_map.mp file
        cases same
        exact ⟨child, mem, (ih (legal.part mem)).mp inside⟩
      · rintro ⟨child, mem, file⟩
        exact ⟨_, mem, List.mem_map.mpr ⟨_, (ih (legal.part mem)).mpr file, rfl⟩⟩

theorem nodup_placed {tree : FileTree} (legal : tree.Legal) : (tree.placed.map Prod.fst).Nodup := by
  induction tree using induct with
  | file bytes => exact List.nodup_singleton []
  | link target => exact List.nodup_nil
  | folder entries ih =>
    cases legal with
    | folder sorted named parts =>
      have child : ∀ entry : Text × FileTree, (entry.2.placed.map fun file =>
          (entry.1 :: file.1, file.2)).map Prod.fst =
            (entry.2.placed.map Prod.fst).map (entry.1 :: ·) := by
        intro entry
        rw [List.map_map, List.map_map]
        rfl
      rw [placed_folder, List.map_flatMap, List.nodup_flatMap]
      constructor
      · intro entry mem
        rw [child]
        exact (ih entry mem (parts entry mem)).map fun _ _ same => (List.cons.inj same).2
      · apply sorted.imp
        intro one other before
        refine List.disjoint_left.mpr fun place here there => ?_
        dsimp only at here there
        rw [child] at here there
        obtain ⟨_, _, rfl⟩ := List.mem_map.mp here
        obtain ⟨_, _, same⟩ := List.mem_map.mp there
        exact Text.ne_of_before before (List.cons.inj same).1.symm

def relativePath (place : Place) : Text := ['/'].intercalate place

theorem relativePath_cons {name : Text} {place : Place} (named : ∀ name ∈ place, name ≠ []) :
    relativePath (name :: place) =
      if (relativePath place).isEmpty then name else name ++ '/' :: relativePath place := by
  unfold relativePath
  cases place with
  | nil => exact List.intercalate_singleton
  | cons second place =>
    obtain ⟨c, rest, full⟩ := List.exists_cons_of_ne_nil (named second List.mem_cons_self)
    have more : (['/'].intercalate (second :: place)).isEmpty = false := by
      subst full
      cases place with
      | nil => rw [List.intercalate_singleton]; rfl
      | cons third place => rw [List.intercalate_cons_cons]; rfl
    rw [more, List.intercalate_cons_cons, List.append_assoc]
    rfl

theorem files_eq {tree : FileTree} (legal : tree.Legal) :
    tree.files = tree.placed.map fun file => (relativePath file.1, file.2) := by
  induction tree using induct with
  | file bytes => rfl
  | link target => rfl
  | folder entries ih =>
    rw [files, filesOfEntries_eq, placed_folder, List.map_flatMap]
    apply List.flatMap_congr
    intro entry mem
    have part := legal.part mem
    rw [ih entry mem part, List.map_map, List.map_map]
    apply List.map_congr_left
    intro file inside
    have there := (mem_placed_iff part).mp inside
    have named := fun name mem => (isName_of_get? part there name mem).1
    simp only [Function.comp_apply, relativePath_cons named]

end FileTree

namespace Disk
open FileTree

def pathAt (path : Text) (place : Place) : Text := place.foldl entryPath path

/-- That no path at which a walk opens something is too long. -/
def Opens (path : Text) (tree : FileTree) : Prop :=
  ∀ place node, tree.get? place = some node → (∀ target, node ≠ .link target) →
    (pathAt path place).byteCount < pathLimit

theorem entryFault?_eq_none_iff {path : Text} {entries : List (Text × FileTree)} :
    entryFault? path entries = none ↔
      ∀ entry ∈ entries, walkFault? (entryPath path entry.1) entry.2 = none := by
  induction entries with
  | nil => simp [entryFault?]
  | cons entry entries ih =>
    rw [entryFault?, List.forall_mem_cons, ← ih]
    cases walkFault? (entryPath path entry.1) entry.2 <;> simp

theorem walkFault?_eq_none_iff {path : Text} {tree : FileTree} (legal : tree.Legal) :
    walkFault? path tree = none ↔ Opens path tree := by
  induction tree using induct generalizing path with
  | file bytes =>
    have fault : walkFault? path (.file bytes) = none ↔ path.byteCount < pathLimit := by
      simp [walkFault?]
    rw [fault]
    constructor
    · intro short place node there _
      cases place with
      | nil => exact short
      | cons name place => cases there
    · exact fun opens => opens [] _ rfl nofun
  | link target =>
    refine iff_of_true (by rw [walkFault?]) ?_
    intro place node there opened
    cases place with
    | nil => exact absurd (Option.some.inj there).symm (opened target)
    | cons name place => cases there
  | folder entries ih =>
    have parts : entryFault? path entries = none ↔
        ∀ entry ∈ entries, Opens (entryPath path entry.1) entry.2 := by
      rw [entryFault?_eq_none_iff]
      exact forall₂_congr fun entry mem => ih entry mem (legal.part mem)
    rw [walkFault?]
    constructor
    · intro none place node there opened
      split at none
      case isTrue => cases none
      case isFalse short =>
        cases place with
        | nil => exact Nat.lt_of_not_le short
        | cons name place =>
          obtain ⟨tree, mem, there⟩ := legal.get?_cons_eq_some_iff.mp there
          exact parts.mp none _ mem place node there opened
    · intro opens
      have short : path.byteCount < pathLimit := opens [] _ rfl nofun
      rw [if_neg (Nat.not_le.mpr short), parts]
      intro entry mem place node there opened
      exact opens (entry.1 :: place) node
        (legal.get?_cons_eq_some_iff.mpr ⟨entry.2, mem, there⟩) opened

theorem entryFault?_eq_some {path : Text} {entries : List (Text × FileTree)} {fault : WalkFault}
    (failed : entryFault? path entries = some fault) :
    ∃ entry ∈ entries, walkFault? (entryPath path entry.1) entry.2 = some fault := by
  induction entries with
  | nil => cases failed
  | cons entry entries ih =>
    rw [entryFault?] at failed
    split at failed
    case h_1 first here =>
      cases failed
      exact ⟨entry, List.mem_cons_self, here⟩
    case h_2 =>
      obtain ⟨other, mem, there⟩ := ih failed
      exact ⟨other, List.mem_cons_of_mem entry mem, there⟩

theorem fault_of_walkFault? {path : Text} {tree : FileTree} {fault : WalkFault}
    (failed : walkFault? path tree = some fault) : fault.fault = .nameTooLong := by
  induction tree using induct generalizing path with
  | file bytes =>
    rw [walkFault?, Option.ite_none_right_eq_some] at failed
    cases failed.2
    rfl
  | link target => cases failed
  | folder entries ih =>
    rw [walkFault?] at failed
    split at failed
    case isTrue =>
      cases failed
      rfl
    case isFalse =>
      obtain ⟨entry, mem, there⟩ := entryFault?_eq_some failed
      exact ih entry mem there

theorem resolve_eq_ok_iff {disk : Disk} {path : Text} {place : Place} :
    disk.resolve path = .ok place ↔ check path = .ok () ∧ ∃ left,
      follow disk.root maxLinks (startOf disk.here path) (path.pieces '/') = .ok (place, left) := by
  unfold resolve
  cases check path with
  | error fault => simp [bind, Except.bind]
  | ok =>
    cases follow disk.root maxLinks (startOf disk.here path) (path.pieces '/') with
    | error fault => simp [bind, Except.bind]
    | ok found => simp [bind, Except.bind, pure, Except.pure, Prod.ext_iff]

theorem follow_singleton {root : FileTree} {links left : Nat} {place found : Place}
    {segment : Text} (named : ¬(staysAt segment || isParent segment))
    (leads : follow root links place [segment] = .ok (found, left)) :
    ∃ node, entry? root place segment = .ok (some node) ∧
      (found = place ++ [segment] ∨ ∃ target, node = .link target) := by
  rw [follow.eq_def] at leads
  dsimp only at leads
  rw [if_neg named] at leads
  split at leads
  case h_1 => cases leads
  case h_2 => cases leads
  case h_3 target link => exact ⟨_, link, .inr ⟨target, rfl⟩⟩
  case h_4 node _ there =>
    rw [follow] at leads
    cases leads
    exact ⟨node, there, .inl rfl⟩

theorem resolveLink_of_entry? {disk : Disk} {path : Text} (fine : check path = .ok ())
    (named : ¬(staysAt ((path.pieces '/').getLastD []) || isParent ((path.pieces '/').getLastD [])))
    {parent : Place} {links : Nat}
    (parents : follow disk.root maxLinks (startOf disk.here path) (path.pieces '/').dropLast =
      .ok (parent, links))
    {node : FileTree} (there : entry? disk.root parent ((path.pieces '/').getLastD []) =
      .ok (some node)) :
    disk.resolveLink path = .ok (parent ++ [(path.pieces '/').getLastD []]) := by
  unfold resolveLink
  rw [fine]
  refine (if_neg named).trans ?_
  rw [parents]
  simp only [bind, Except.bind, there]
  rfl

theorem resolveLink_of_resolve {disk : Disk} {path : Text} {place : Place}
    (leads : disk.resolve path = .ok place) :
    disk.resolveLink path = .ok place ∨
      ∃ start target, disk.resolveLink path = .ok start ∧
        disk.root.get? start = some (.link target) := by
  obtain ⟨fine, left, follows⟩ := resolve_eq_ok_iff.mp leads
  by_cases dots : staysAt ((path.pieces '/').getLastD []) ||
      isParent ((path.pieces '/').getLastD [])
  · left
    unfold resolveLink
    rw [fine]
    exact (if_pos dots).trans leads
  · have stays : ¬staysAt ((path.pieces '/').getLastD []) := fun stays => dots (by rw [stays]; rfl)
    rw [← dropLast_append_getLastD stays, follow_append_eq] at follows
    cases parents : follow disk.root maxLinks (startOf disk.here path)
        (path.pieces '/').dropLast with
    | error fault =>
      rw [parents] at follows
      cases follows
    | ok found =>
      rw [parents] at follows
      obtain ⟨node, there, ends⟩ := follow_singleton dots follows
      have start := resolveLink_of_entry? fine dots parents there
      rcases ends with rfl | ⟨target, rfl⟩
      · exact .inl start
      · exact .inr ⟨_, target, start, (entry?_eq_ok_iff.mp there).2.2⟩

theorem walkStart_of_resolve {disk : Disk} {path : Text} {place : Place}
    {entries : List (Text × FileTree)} (leads : disk.resolve path = .ok place)
    (there : disk.root.get? place = some (.folder entries)) :
    disk.walkStart path = .ok (.folder entries) := by
  unfold walkStart
  rcases resolveLink_of_resolve leads with here | ⟨start, target, ends, link⟩
  · simp [here, there, bind, Except.bind, pure, Except.pure]
  · simp [ends, link, leads, there, bind, Except.bind, pure, Except.pure]

theorem walk_of_resolve {disk : Disk} {path : Text} {place : Place}
    {entries : List (Text × FileTree)} (leads : disk.resolve path = .ok place)
    (there : disk.root.get? place = some (.folder entries))
    (legal : (FileTree.folder entries).Legal) :
    (Opens path (.folder entries) ∧ disk.walk path = .ok (FileTree.folder entries).files) ∨
    (¬Opens path (.folder entries) ∧ ∃ directory,
      disk.walk path = .error ⟨directory, .nameTooLong⟩) := by
  have opens : walkFault? path (.folder entries) = none ↔ Opens path (.folder entries) :=
    walkFault?_eq_none_iff legal
  cases failed : walkFault? path (.folder entries) with
  | none =>
    have walks : disk.walk path = .ok (FileTree.folder entries).files := by
      simp only [walk, walkStart_of_resolve leads there, failed]
    exact .inl ⟨opens.mp failed, walks⟩
  | some fault =>
    have walks : disk.walk path = .error fault := by
      simp only [walk, walkStart_of_resolve leads there, failed]
    obtain ⟨directory, cause⟩ := fault
    obtain rfl : cause = .nameTooLong := fault_of_walkFault? failed
    refine .inr ⟨fun short => ?_, directory, walks⟩
    rw [opens.mpr short] at failed
    cases failed

end Disk
end Pagecraft
