import Mathlib.Data.List.DropRight
import Pagecraft.Proofs.Asset.Library
import Pagecraft.Proofs.Disk.Walk
import Pagecraft.Proofs.Text.Cut

/-! Uploads. Every regular file below the upload directory becomes a record, but names are cut at
backslashes on the way to its path, so that two files may get one path between them. Of these only
the first can be kept. -/
namespace Pagecraft.Asset
open FileTree

/-- The segments of the path that the file at a place gets: backslashes count as slashes, and empty
segments in front are dropped. -/
def segments (place : Place) : List Text :=
  (place.flatMap (Text.pieces '\\')).dropWhile List.isEmpty

def Record.ofPlace (place : Place) (bytes : Bytes) : Record :=
  let path := pathMark ++ ['/'].intercalate (segments place)
  .ofBytes ((segments place).getLastD []) path (MediaType.ofPath path) bytes

theorem swap_relativePath (place : Place) :
    Text.swap '\\' '/' (relativePath place) =
      ['/'].intercalate (place.flatMap (Text.pieces '\\')) := by
  unfold relativePath
  induction place with
  | nil => rfl
  | cons name place ih =>
    cases place with
    | nil =>
      rw [List.intercalate_singleton, List.flatMap_singleton]
      exact Text.swap_eq_intercalate '\\' '/' name
    | cons second place =>
      have some : Text.pieces '\\' name ≠ [] := List.splitOn_ne_nil '\\' name
      have more : (second :: place).flatMap (Text.pieces '\\') ≠ [] := by
        rw [List.flatMap_cons]
        exact List.append_ne_nil_of_left_ne_nil (List.splitOn_ne_nil '\\' second) _
      rw [List.intercalate_cons_cons, List.flatMap_cons, Text.intercalate_append some more, ← ih,
        ← Text.swap_eq_intercalate]
      simp [Text.swap]

section
variable {place : Place} (named : ∀ name ∈ place, IsName name)
include named

theorem slash_not_mem_pieces : ∀ piece ∈ place.flatMap (Text.pieces '\\'), '/' ∉ piece := by
  intro piece mem slash
  obtain ⟨name, among, mem⟩ := List.mem_flatMap.mp mem
  exact (named name among).2 (Text.mem_of_mem_pieces mem slash)

theorem slash_not_mem_segments : ∀ segment ∈ segments place, '/' ∉ segment := fun segment mem =>
  slash_not_mem_pieces named segment (List.dropWhile_subset _ mem)

theorem lastPiece_segments :
    Text.lastPiece '/' (['/'].intercalate (segments place)) = (segments place).getLastD [] := by
  unfold Text.lastPiece Text.pieces
  by_cases none : segments place = []
  · rw [none]
    rfl
  · rw [List.splitOn_intercalate '/' (slash_not_mem_segments named) none]

theorem segments_eq :
    segments place =
      (Text.pieces '/' (['/'].intercalate (segments place))).dropWhile List.isEmpty := by
  unfold Text.pieces
  by_cases none : segments place = []
  · rw [none]
    rfl
  · rw [List.splitOn_intercalate '/' (slash_not_mem_segments named) none]
    exact (List.dropWhile_idempotent List.isEmpty _).symm

/-- Backslashes are turned before slashes in front are dropped, and those that were backslashes are
dropped too. -/
theorem ofUpload_relativePath (bytes : Bytes) :
    Record.ofUpload (Text.swap '\\' '/' (relativePath place)) bytes = .ofPlace place bytes := by
  have turned : '\\' ∉ (Text.swap '\\' '/' (relativePath place)).dropWhile (· == '/') := by
    intro mem
    obtain ⟨c, -, same⟩ := List.mem_map.mp (List.dropWhile_subset _ mem)
    split at same
    case isTrue => cases same
    case isFalse other => exact other same
  have path : Text.swap '\\' '/' ((Text.swap '\\' '/' (relativePath place)).dropWhile (· == '/')) =
      ['/'].intercalate (segments place) := by
    rw [Text.swap_of_not_mem turned, swap_relativePath,
      Text.dropWhile_intercalate (slash_not_mem_pieces named), segments]
  unfold Record.ofUpload Record.ofPlace
  simp only [path, lastPiece_segments named]

end

theorem ofUploads_files {tree : FileTree} (legal : tree.Legal) :
    Record.ofUploads tree.files = tree.placed.map fun file => Record.ofPlace file.1 file.2 := by
  rw [Record.ofUploads, files_eq legal, List.map_map]
  apply List.map_congr_left
  intro file mem
  exact ofUpload_relativePath (isName_of_get? legal ((mem_placed_iff legal).mp mem)) file.2

theorem path_eq_iff {place other : Place} (named : ∀ name ∈ place, IsName name)
    (named' : ∀ name ∈ other, IsName name) (bytes bytes' : Bytes) :
    (Record.ofPlace place bytes).path = (Record.ofPlace other bytes').path ↔
      segments place = segments other := by
  constructor
  · intro same
    have paths : ['/'].intercalate (segments place) = ['/'].intercalate (segments other) :=
      List.append_cancel_left same
    rw [segments_eq named, paths, ← segments_eq named']
  · intro same
    unfold Record.ofPlace
    rw [same]
    rfl

theorem segments_of_plain {place : Place} (named : ∀ name ∈ place, IsName name)
    (plain : ∀ name ∈ place, '\\' ∉ name) : segments place = place := by
  have whole : place.flatMap (Text.pieces '\\') = place.flatMap fun name => [name] :=
    List.flatMap_congr fun name mem => List.splitOn_eq_singleton (plain name mem)
  unfold segments
  rw [whole, List.flatMap_singleton']
  cases place with
  | nil => rfl
  | cons name place =>
    have full := (named name List.mem_cons_self).1
    exact List.dropWhile_cons_of_neg (by simpa using full)

/-! Collecting -/

def Apart (tree : FileTree) : Prop :=
  ∀ place other bytes bytes', tree.get? place = some (.file bytes) →
    tree.get? other = some (.file bytes') → segments place = segments other → place = other

theorem perm_ofList_iff {records : List Record} :
    (Library.ofList records).records.Perm records ↔ (records.map Record.path).Nodup := by
  constructor
  · intro perm
    exact (perm.map Record.path).nodup (Library.nodup_paths _)
  · intro apart
    have perm : (Library.ofList records).records.Perm (records ++ []) :=
      Library.perm_extend apart fun _ _ => by simp
    rwa [List.append_nil] at perm

theorem nodup_paths_iff {tree : FileTree} (legal : tree.Legal) :
    ((Record.ofUploads tree.files).map Record.path).Nodup ↔ Apart tree := by
  have files : tree.placed.Nodup := (nodup_placed legal).of_map
  rw [ofUploads_files legal, List.map_map, List.nodup_map_iff_inj_on files]
  constructor
  · intro injective place other bytes bytes' here there same
    have paths := (path_eq_iff (isName_of_get? legal here) (isName_of_get? legal there) bytes
      bytes').mpr same
    have mem := (mem_placed_iff legal).mpr here
    have mem' := (mem_placed_iff legal).mpr there
    exact congrArg Prod.fst (injective _ mem _ mem' paths)
  · intro apart (place, bytes) mem (other, bytes') mem' paths
    have here := (mem_placed_iff legal).mp mem
    have there := (mem_placed_iff legal).mp mem'
    have same := (path_eq_iff (isName_of_get? legal here) (isName_of_get? legal there) bytes
      bytes').mp paths
    obtain rfl := apart place other bytes bytes' here there same
    cases here.symm.trans there
    rfl

theorem apart_of_plain {tree : FileTree} (legal : tree.Legal)
    (plain : ∀ place bytes, tree.get? place = some (.file bytes) → ∀ name ∈ place, '\\' ∉ name) :
    Apart tree := by
  intro place other bytes bytes' here there same
  rwa [segments_of_plain (isName_of_get? legal here) (plain place bytes here),
    segments_of_plain (isName_of_get? legal there) (plain other bytes' there)] at same

/-- What is loaded from a directory with the files of a tree: a record for every file, with its
bytes. The paths of the records are different, and collecting keeps all of them, if and only if the
files of the tree are apart; which they are where no name has a backslash. -/
structure Uploaded (tree : FileTree) (records : List Record) : Prop where
  once : (tree.placed.map Prod.fst).Nodup
  every : ∀ place bytes, (place, bytes) ∈ tree.placed ↔ tree.get? place = some (.file bytes)
  each : records = tree.placed.map fun file => Record.ofPlace file.1 file.2
  distinct_iff : (records.map Record.path).Nodup ↔ Apart tree
  kept_iff : (Library.ofList records).records.Perm records ↔ Apart tree
  plain : (∀ place bytes, tree.get? place = some (.file bytes) → ∀ name ∈ place, '\\' ∉ name) →
    Apart tree

theorem uploaded_files {tree : FileTree} (legal : tree.Legal) :
    Uploaded tree (Record.ofUploads tree.files) where
  once := nodup_placed legal
  every _ _ := mem_placed_iff legal
  each := ofUploads_files legal
  distinct_iff := nodup_paths_iff legal
  kept_iff := perm_ofList_iff.trans (nodup_paths_iff legal)
  plain := apart_of_plain legal

/-- From a directory all files are loaded, unless a path below it is too long. Collecting keeps all
of them if and only if no two of them come to the same path. -/
theorem uploads_kept_iff {disk : Disk} {path : Text} {place : Place}
    {entries : List (Text × FileTree)} (leads : disk.resolve path = .ok place)
    (there : disk.root.get? place = some (.folder entries))
    (legal : (FileTree.folder entries).Legal) :
    (Disk.Opens path (.folder entries) ∧ ∃ files, disk.walk path = .ok files ∧
      Uploaded (.folder entries) (Record.ofUploads files)) ∨
    (¬Disk.Opens path (.folder entries) ∧ ∃ directory,
      disk.walk path = .error ⟨directory, .nameTooLong⟩) := by
  rcases Disk.walk_of_resolve leads there legal with ⟨opens, walks⟩ | failed
  · exact .inl ⟨opens, _, walks, uploaded_files legal⟩
  · exact .inr failed

def twoFiles (directory inside beside : Text) : List (Text × FileTree) :=
  [(directory, .folder [(inside, .file [1])]), (beside, .file [2])]

theorem legal_twoFiles {directory inside beside : Text} (before : Text.before directory beside)
    (named : ∀ name ∈ [directory, inside, beside], IsName name) :
    (FileTree.folder (twoFiles directory inside beside)).Legal := by
  simp only [List.forall_mem_cons] at named
  obtain ⟨outer, inner, other, -⟩ := named
  have deeper : (FileTree.folder [(inside, .file [1])]).Legal := by
    refine .folder (List.pairwise_singleton _ _) ?_ ?_ <;> simp only [List.forall_mem_cons]
    · exact ⟨inner, nofun⟩
    · exact ⟨.file _, nofun⟩
  refine .folder ?_ ?_ ?_
  · exact List.pairwise_pair.mpr before
  · simp only [twoFiles, List.forall_mem_cons]
    exact ⟨outer, other, nofun⟩
  · simp only [twoFiles, List.forall_mem_cons]
    exact ⟨deeper, .file _, nofun⟩

def uploadDisk (entries : List (Text × FileTree)) : Disk :=
  ⟨.folder [(['u'], .folder entries)], []⟩

def twoPictures : List (Text × FileTree) :=
  twoFiles "icons".toList "a.png".toList "logo.png".toList

theorem uploads_kept_twoPictures : ∃ files, (uploadDisk twoPictures).walk ['u'] = .ok files ∧
    (Record.ofUploads files).map Record.path =
      ["/assets/icons/a.png".toList, "/assets/logo.png".toList] ∧
    (Library.ofList (Record.ofUploads files)).records.Perm (Record.ofUploads files) := by
  have legal : (FileTree.folder twoPictures).Legal := legal_twoFiles (by decide) (by decide)
  have leads : (uploadDisk twoPictures).resolve ['u'] = .ok [['u']] := by cbv
  have walks : (uploadDisk twoPictures).walk ['u'] =
      .ok [("icons/a.png".toList, [1]), ("logo.png".toList, [2])] := by cbv
  rcases uploads_kept_iff leads rfl legal with ⟨-, files, found, uploaded⟩ | ⟨-, _, failed⟩
  · have plain : ∀ file ∈ (FileTree.folder twoPictures).placed, ∀ name ∈ file.1, '\\' ∉ name := by
      decide
    have apart := uploaded.plain fun place bytes file =>
      plain (place, bytes) ((uploaded.every place bytes).mpr file)
    obtain rfl := Except.ok.inj (found.symm.trans walks)
    exact ⟨_, found, by decide +kernel, uploaded.kept_iff.mpr apart⟩
  · rw [walks] at failed
    cases failed

/-- The name of the second file has a backslash where the place of the first one has a new name. -/
def clashing : List (Text × FileTree) := twoFiles ['a'] ['b'] ['a', '\\', 'b']

theorem uploads_lost : (FileTree.folder clashing).Legal ∧
    ∃ files, (uploadDisk clashing).walk ['u'] = .ok files ∧ files.map Prod.snd = [[1], [2]] ∧
      (Record.ofUploads files).map Record.path = ["/assets/a/b".toList, "/assets/a/b".toList] ∧
      (Library.ofList (Record.ofUploads files)).records.map Record.bytes = [[1]] := by
  have walks : (uploadDisk clashing).walk ['u'] =
      .ok [("a/b".toList, [1]), (['a', '\\', 'b'], [2])] := by cbv
  exact ⟨legal_twoFiles (by decide) (by decide), _, walks, rfl, by decide +kernel,
    by decide +kernel⟩

end Pagecraft.Asset
