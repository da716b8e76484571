import Pagecraft.Proofs.Disk.Writing
import Pagecraft.Proofs.Source.Tracing
import Pagecraft.Source.Directory

/-! What a source in a directory gives: the regular files to which paths lead from there. Nothing else
about the name of the directory matters, except that one with a segment that is the parent serves no
file at all. -/
namespace Pagecraft

namespace Disk
open FileTree

theorem startOf_eq (here : Place) (path : Text) :
    startOf here path = if path.head? = some '/' then [] else here := by
  cases path with
  | nil => rfl
  | cons c path =>
    by_cases slash : c = '/'
    · subst slash
      rfl
    · simp [startOf, slash]

theorem read_eq_ok_iff {disk : Disk} {path : Text} {bytes : Bytes} :
    disk.read path = .ok bytes ↔ check path = .ok () ∧ ∃ place left,
      follow disk.root maxLinks (startOf disk.here path) (path.pieces '/') = .ok (place, left) ∧
      disk.root.get? place = some (.file bytes) := by
  rw [read, resolve]
  cases check path with
  | error fault => simp [bind, Except.bind]
  | ok =>
    cases follow disk.root maxLinks (startOf disk.here path) (path.pieces '/') with
    | error fault => simp [bind, Except.bind]
    | ok found =>
      obtain ⟨place, left⟩ := found
      simp only [bind, Except.bind, pure, Except.pure, throw, throwThe, MonadExceptOf.throw]
      cases node : disk.root.get? place with
      | none => simp [node]
      | some tree => cases tree <;> simp [node]

end Disk

namespace Source

/-- That a path could lead out of the root of a source: it is empty or absolute, has a backslash, or
has a segment that is the parent. -/
def LeavesRoot (path : Text) : Prop :=
  path = [] ∨ path.head? = some '/' ∨ '\\' ∈ path ∨ ['.', '.'] ∈ path.pieces '/'

theorem not_isInside_iff {path : Text} : ¬isInside path ↔ LeavesRoot path := by
  simp only [isInside, LeavesRoot, Bool.and_eq_true, Bool.not_eq_true', decide_eq_true_eq,
    List.isEmpty_eq_false_iff, List.contains_eq_mem, decide_eq_false_iff_not, not_and_or, not_not,
    or_assoc, ne_eq]

theorem pieces_below (root path : Text) :
    ∃ front, (below root path).pieces '/' = front ++ path.pieces '/' ∧
      (root.pieces '/' = front ∨ root.pieces '/' = front ++ [[]]) := by
  have cut (front back : Text) :
      Text.pieces '/' (front ++ '/' :: back) = front.pieces '/' ++ back.pieces '/' :=
    List.splitOn_append_cons_self front back
  cases last : root.getLast? with
  | none =>
    obtain rfl := List.getLast?_eq_none_iff.mp last
    exact ⟨[], rfl, .inr rfl⟩
  | some c =>
    have full : root ≠ [] := by rintro rfl; cases last
    by_cases slash : c = '/'
    · subst slash
      obtain ⟨front, rfl⟩ := List.getLast?_eq_some_iff.mp last
      refine ⟨Text.pieces '/' front, ?_, .inr (cut front [])⟩
      rw [below, if_pos (by simp), List.append_assoc]
      exact cut front path
    · refine ⟨root.pieces '/', ?_, .inl rfl⟩
      rw [below, if_neg (by simp [last, slash, full])]
      exact cut root path

theorem parent_mem_below_iff {root path : Text} :
    ['.', '.'] ∈ (below root path).pieces '/' ↔
      ['.', '.'] ∈ root.pieces '/' ∨ ['.', '.'] ∈ path.pieces '/' := by
  obtain ⟨front, whole, same | trailing⟩ := pieces_below root path
  · rw [whole, same, List.mem_append]
  · simp [whole, trailing]

theorem startOf_below (here : Place) {root path : Text} (relative : path.head? ≠ some '/') :
    Disk.startOf here (below root path) = Disk.startOf here root := by
  rw [Disk.startOf_eq, Disk.startOf_eq]
  cases root with
  | nil => exact if_neg relative
  | cons c root =>
    rw [below]
    split <;> rfl

/-- That the segments of a path lead, from the directory that a root names, to a regular file with
the bytes. Both together have to be a path that can be resolved: without NULs and not too long. -/
structure HasFile (disk : Disk) (root path : Text) (bytes : Bytes) : Prop where
  resolvable : Disk.check (below root path) = .ok ()
  leads : ∃ directory left place rest,
    Disk.follow disk.root Disk.maxLinks (Disk.startOf disk.here root) (root.pieces '/') =
      .ok (directory, left) ∧
    Disk.follow disk.root left directory (path.pieces '/') = .ok (place, rest) ∧
    disk.root.get? place = some (.file bytes)

theorem read_below_iff {disk : Disk} {root path : Text} (relative : path.head? ≠ some '/')
    {bytes : Bytes} : disk.read (below root path) = .ok bytes ↔ HasFile disk root path bytes := by
  have more : path.pieces '/' ≠ [] := List.splitOn_ne_nil _ _
  have walk : ∀ start, Disk.follow disk.root Disk.maxLinks start ((below root path).pieces '/') =
      Disk.follow disk.root Disk.maxLinks start (root.pieces '/' ++ path.pieces '/') := by
    intro start
    obtain ⟨front, whole, same | trailing⟩ := pieces_below root path
    · rw [whole, same]
    · rw [whole, trailing, List.append_assoc, Disk.follow_append_eq front,
        Disk.follow_append_eq front, List.singleton_append]
      simp only [Disk.follow_empty_cons more]
  rw [Disk.read_eq_ok_iff, startOf_below _ relative, walk, Disk.follow_append_eq]
  constructor
  · rintro ⟨resolvable, place, rest, leads, file⟩
    cases reached : Disk.follow disk.root Disk.maxLinks (Disk.startOf disk.here root)
        (root.pieces '/') with
    | error fault =>
      rw [reached] at leads
      cases leads
    | ok found =>
      rw [reached] at leads
      exact ⟨resolvable, found.1, found.2, place, rest, reached, leads, file⟩
  · rintro ⟨resolvable, directory, left, place, rest, reached, leads, file⟩
    rw [reached]
    exact ⟨resolvable, place, rest, leads, file⟩

theorem run_fetchFile (disk : Disk) (root path : Text) :
    (fetchFile Disk.files root path).run disk =
      (if !isInside path || ((below root path).pieces '/').contains ['.', '.'] then
        .error (.invalidPath path)
      else match disk.read (below root path) with
        | .ok bytes => .ok ⟨bytes, none⟩
        | .error _ => .error (.notFound (below root path)), disk) := by
  have isFile : (Disk.files.isFile (below root path)).run disk =
      (disk.isFile (below root path), disk) := rfl
  have reads : (Disk.files.read (below root path)).run disk =
      (disk.read (below root path), disk) := rfl
  rw [fetchFile]
  split
  · rfl
  · rw [run_bind_of_run_eq isFile, Disk.isFile]
    cases read : disk.read (below root path) with
    | error fault => rfl
    | ok bytes =>
      rw [read] at reads
      exact run_bind_of_run_eq reads _

/-- A source in a directory refuses a path if it could lead out of the root or if the root itself has
a segment that is the parent. Every other path is answered by the regular file to which it leads from
the root, if there is one, and else as not found. The disk stays as it is. -/
theorem fetch_directory_iff (disk : Disk) (root path : Text) :
    ∃ answer, ((directory Disk.files root).fetch path).run disk = (answer, disk) ∧
      (answer = .error (.invalidPath path) ↔
        LeavesRoot path ∨ ['.', '.'] ∈ root.pieces '/') ∧
      (∀ fetched, answer = .ok fetched ↔
        ¬(LeavesRoot path ∨ ['.', '.'] ∈ root.pieces '/') ∧
          HasFile disk root path fetched.bytes ∧ fetched.contentType = none) ∧
      (answer = .error (.notFound (below root path)) ↔
        ¬(LeavesRoot path ∨ ['.', '.'] ∈ root.pieces '/') ∧
          ∀ bytes, ¬HasFile disk root path bytes) := by
  have refuses : (!isInside path || ((below root path).pieces '/').contains ['.', '.']) = true ↔
      LeavesRoot path ∨ ['.', '.'] ∈ root.pieces '/' := by
    rw [Bool.or_eq_true, Bool.not_eq_true', ← Bool.not_eq_true, not_isInside_iff,
      List.contains_iff_mem, parent_mem_below_iff]
    unfold LeavesRoot
    tauto
  refine ⟨_, run_fetchFile disk root path, ?_⟩
  by_cases refused : LeavesRoot path ∨ ['.', '.'] ∈ root.pieces '/'
  · rw [if_pos (refuses.mpr refused)]
    simp [refused]
  · have relative : path.head? ≠ some '/' := fun slash => refused (.inl (.inr (.inl slash)))
    have file (bytes : Bytes) := @read_below_iff disk root path relative bytes
    rw [if_neg (mt refuses.mp refused)]
    cases read : disk.read (below root path) with
    | error fault =>
      have none (bytes : Bytes) : ¬HasFile disk root path bytes := by
        rw [← file, read]
        exact nofun
      simp [refused, none]
    | ok bytes =>
      have only (other : Bytes) : HasFile disk root path other ↔ bytes = other := by
        rw [← file, read, Except.ok.injEq]
      refine ⟨by simp [refused], fun fetched => ?_, by simp [only]⟩
      rw [only, Except.ok.injEq]
      cases fetched
      simp [refused, eq_comm]

def siteDisk : Disk :=
  ⟨.folder [("site".toList, .folder [("template.html".toList, .file [120])])], []⟩

theorem fetch_throughParent :
    HasFile siteDisk "site/../site".toList templateName [120] ∧ ¬LeavesRoot templateName ∧
      ((directory Disk.files "site/../site".toList).fetch templateName).run siteDisk =
        (.error (.invalidPath templateName), siteDisk) := by
  refine ⟨⟨by decide, ["site".toList], Disk.maxLinks, ["site".toList, templateName],
    Disk.maxLinks, ?_, ?_, rfl⟩, ?_, ?_⟩
  · cbv
  · cbv
  · unfold LeavesRoot
    decide
  · have refused : (!isInside templateName ||
        ((below "site/../site".toList templateName).pieces '/').contains ['.', '.']) = true := by
      decide
    exact (run_fetchFile siteDisk _ templateName).trans (by rw [if_pos refused])

end Source
end Pagecraft
