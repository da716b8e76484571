import Mathlib.Data.List.Basic
import Pagecraft.Disk.Files
import Pagecraft.Proofs.Disk.FileTree

/-! Writing a file. A write replaces or makes the file that its path leads to, through links if need
be, and changes nothing else; afterwards the same path leads to the file and its bytes are read. -/
namespace Pagecraft

/-- A place that no folder and no link is at, and that a file can be put at. -/
structure FileTree.Free (root : FileTree) (place : Place) : Prop where
  within : ∃ parent entries name, place = parent ++ [name] ∧
    root.get? parent = some (.folder entries)
  leaf : root.get? place = none ∨ ∃ bytes, root.get? place = some (.file bytes)

/-- Trees that differ at most in the file at a place. -/
structure FileTree.Agree (root other : FileTree) (place : Place) : Prop where
  free : root.Free place
  same : ∀ q, q ≠ place → other.look? q = root.look? q

namespace FileTree

namespace Free
variable {root : FileTree} {place : Place} (free : root.Free place)
include free

theorem not_isFolder : ¬(root.get? place).any isFolder := by
  rcases free.leaf with none | ⟨bytes, file⟩
  · simp [none]
  · simp [file, isFolder]

theorem ne_link (target : Text) : root.get? place ≠ some (.link target) := by
  rcases free.leaf with none | ⟨bytes, file⟩
  · simp [none]
  · simp [file]

theorem ne_of_isFolder {q : Place} (folder : (root.get? q).any isFolder) : q ≠ place := by
  rintro rfl
  exact free.not_isFolder folder

theorem look?_put_file (bytes : Bytes) (q : Place) :
    (root.put place (.file bytes)).look? q =
      if q = place then some (.file bytes) else root.look? q := by
  obtain ⟨parent, entries, name, rfl, folder⟩ := free.within
  apply look?_put folder
  rw [← get?_child folder]
  exact free.not_isFolder

theorem agree_put (bytes : Bytes) : root.Agree (root.put place (.file bytes)) place where
  free := free
  same q ne := by rw [free.look?_put_file, if_neg ne]

end Free
end FileTree

namespace Disk
open FileTree

theorem entry?_eq_ok_iff {root : FileTree} {place : Place} {name : Text} {entry : Option FileTree} :
    entry? root place name = .ok entry ↔ (root.get? place).any isFolder ∧
      ¬maxName < name.byteCount ∧ root.get? (place ++ [name]) = entry := by
  unfold entry?
  cases at_place : root.get? place with
  | none => simp
  | some tree =>
    cases tree with
    | folder entries =>
      rw [get?_child at_place]
      by_cases long : maxName < name.byteCount <;> simp [isFolder, long]
    | file bytes => simp [isFolder]
    | link target => simp [isFolder]

section
variable {root : FileTree} {links : Nat} {place : Place} {segment : Text} {rest : List Text}

theorem follow_of_dots (dots : staysAt segment || isParent segment)
    (folder : (root.get? place).any isFolder) :
    follow root links place (segment :: rest) =
      follow root links (if staysAt segment then place else place.dropLast) rest := by
  rw [follow, if_pos dots, if_pos folder]

theorem follow_of_link {target : Text} (named : ¬(staysAt segment || isParent segment))
    (link : entry? root place segment = .ok (some (.link target))) :
    follow root (links + 1) place (segment :: rest) =
      follow root links (startOf place target) (target.pieces '/' ++ rest) := by
  rw [follow, if_neg named, link]

theorem follow_of_node {tree : FileTree} (named : ¬(staysAt segment || isParent segment))
    (node : entry? root place segment = .ok (some tree)) (other : ∀ target, tree ≠ .link target) :
    follow root links place (segment :: rest) = follow root links (place ++ [segment]) rest := by
  rw [follow, if_neg named, node]
  cases tree with
  | folder entries => rfl
  | file bytes => rfl
  | link target => exact absurd rfl (other target)

theorem follow_append_eq (segments others : List Text) :
    follow root links place (segments ++ others) =
      (follow root links place segments).bind fun (found, left) =>
        follow root left found others := by
  fun_induction follow root links place segments with
  | case1 links place => rfl
  | case2 links place segment rest dots folder ih =>
    rw [List.cons_append, follow_of_dots dots folder]
    exact ih
  | case3 links place segment rest dots leaf =>
    rw [List.cons_append, follow, if_pos dots, if_neg leaf]
    rfl
  | case4 links place segment rest named fault failed =>
    rw [List.cons_append, follow, if_neg named, failed]
    rfl
  | case5 links place segment rest named absent =>
    rw [List.cons_append, follow, if_neg named, absent]
    rfl
  | case6 place segment rest named target link =>
    rw [List.cons_append, follow, if_neg named, link]
    rfl
  | case7 place segment rest named target link links ih =>
    rw [List.cons_append, follow_of_link named link, ← List.append_assoc]
    exact ih
  | case8 links place segment rest named tree noLink node ih =>
    rw [List.cons_append, follow_of_node named node noLink]
    exact ih

theorem follow_append {segments others : List Text} {found : Place} {left : Nat}
    (h : follow root links place segments = .ok (found, left)) :
    follow root links place (segments ++ others) = follow root left found others := by
  rw [follow_append_eq, h]
  rfl

theorem entry?_of_not_isFolder (leaf : ¬(root.get? place).any isFolder) (name : Text) :
    entry? root place name = .error .notADirectory := by
  unfold entry?
  split
  case _ entries there => simp [there, isFolder] at leaf
  case _ => rfl

theorem follow_cons_of_not_isFolder (leaf : ¬(root.get? place).any isFolder) :
    follow root links place (segment :: rest) = .error .notADirectory := by
  rw [follow, if_neg leaf, entry?_of_not_isFolder leaf]
  split <;> rfl

theorem follow_of_not_isFolder {segments : List Text} {found : Place} {left : Nat}
    (leaf : ¬(root.get? place).any isFolder)
    (h : follow root links place segments = .ok (found, left)) : found = place := by
  cases segments with
  | nil =>
    rw [follow] at h
    cases h
    rfl
  | cons segment rest =>
    rw [follow_cons_of_not_isFolder leaf] at h
    cases h

theorem follow_empty_cons (more : rest ≠ []) :
    follow root links place ([] :: rest) = follow root links place rest := by
  by_cases folder : (root.get? place).any isFolder
  · exact follow_of_dots rfl folder
  · obtain ⟨segment, rest, rfl⟩ := List.exists_cons_of_ne_nil more
    rw [follow_cons_of_not_isFolder folder, follow_cons_of_not_isFolder folder]

end

section
variable {root other : FileTree} {written : Place} (agree : root.Agree other written)
include agree

theorem isFolder_of_agree {place : Place} (folder : (root.get? place).any isFolder) :
    (other.get? place).any isFolder := by
  have ne := agree.free.ne_of_isFolder folder
  rwa [← any_isFolder_look?, agree.same place ne, any_isFolder_look?]

theorem link_of_agree {place : Place} {segment target : Text}
    (link : entry? root place segment = .ok (some (.link target))) :
    entry? other place segment = .ok (some (.link target)) := by
  obtain ⟨folder, short, there⟩ := entry?_eq_ok_iff.mp link
  have ne : place ++ [segment] ≠ written := by
    rintro rfl
    exact agree.free.ne_link target there
  have there := (look?_eq_some_iff rfl).mpr there
  rw [← agree.same _ ne] at there
  exact entry?_eq_ok_iff.mpr
    ⟨isFolder_of_agree agree folder, short, (look?_eq_some_iff rfl).mp there⟩

theorem node_of_agree {place : Place} {segment : Text} {tree : FileTree}
    (node : entry? root place segment = .ok (some tree)) (noLink : ∀ target, tree ≠ .link target)
    (ne : place ++ [segment] ≠ written) :
    ∃ tree', entry? other place segment = .ok (some tree') ∧ ∀ target, tree' ≠ .link target := by
  obtain ⟨folder, short, there⟩ := entry?_eq_ok_iff.mp node
  have same : other.look? (place ++ [segment]) = some tree.surface := by
    rw [agree.same _ ne, look?, there]
    rfl
  obtain ⟨tree', there', shallow⟩ := Option.map_eq_some_iff.mp same
  refine ⟨tree', entry?_eq_ok_iff.mpr ⟨isFolder_of_agree agree folder, short, there'⟩, ?_⟩
  rintro target rfl
  have link := (look?_eq_some_iff rfl).mpr there'
  rw [agree.same _ ne, look?_eq_some_iff rfl, there] at link
  exact noLink target (Option.some.inj link)

theorem follow_of_agree {links left : Nat} {place found : Place} {segments : List Text}
    (h : follow root links place segments = .ok (found, left)) (ne : found ≠ written) :
    follow other links place segments = .ok (found, left) := by
  fun_induction follow root links place segments with
  | case1 links place =>
    cases h
    rw [follow]
  | case2 links place segment rest dots folder ih =>
    rw [follow_of_dots dots (isFolder_of_agree agree folder)]
    exact ih h
  | case3 => cases h
  | case4 => cases h
  | case5 => cases h
  | case6 => cases h
  | case7 place segment rest named target link links ih =>
    rw [follow_of_link named (link_of_agree agree link)]
    exact ih h
  | case8 links place segment rest named tree noLink node ih =>
    have apart : place ++ [segment] ≠ written := by
      rintro rfl
      exact ne (follow_of_not_isFolder agree.free.not_isFolder h)
    obtain ⟨tree', node', noLink'⟩ := node_of_agree agree node noLink apart
    rw [follow_of_node named node' noLink']
    exact ih h

end

theorem trimmed_of_length {segments : List Text}
    (whole : ¬(segments.reverse.dropWhile List.isEmpty).reverse.length < segments.length) :
    (segments.reverse.dropWhile List.isEmpty).reverse = segments := by
  have suffix := List.dropWhile_suffix List.isEmpty (l := segments.reverse)
  have least : segments.reverse.length ≤ (segments.reverse.dropWhile List.isEmpty).length := by
    rw [List.length_reverse] at whole ⊢
    omega
  rw [suffix.eq_of_length_le least, List.reverse_reverse]

theorem dropLast_append_getLastD {segments : List Text} (last : ¬staysAt (segments.getLastD [])) :
    segments.dropLast ++ [segments.getLastD []] = segments := by
  cases segments with
  | nil => exact absurd rfl last
  | cons segment rest =>
    rw [List.getLastD_cons, ← List.getLast_eq_getLastD]
    exact List.dropLast_append_getLast (List.cons_ne_nil segment rest)

/-- What the last name of a path stands for when a file is written. -/
inductive Last (root : FileTree) (parent : Place) (last : Text) (left : Nat) (written : Place) : Prop
  | file (entry : Option FileTree) (old : entry? root parent last = .ok entry)
      (leaf : entry = none ∨ ∃ bytes, entry = some (.file bytes))
      (here : written = parent ++ [last])
  | link (path : Text) (fewer : Nat) (old : entry? root parent last = .ok (some (.link path)))
      (some_left : left = fewer + 1)
      (there : target root fewer (startOf parent path) (path.pieces '/') = .ok written)

theorem target_eq_ok {root : FileTree} {written : Place} {links : Nat} {place : Place}
    {segments : List Text} (h : target root links place segments = .ok written) :
    ∃ before last parent left, segments = before ++ [last] ∧ ¬(staysAt last || isParent last) ∧
      follow root links place before = .ok (parent, left) ∧ Last root parent last left written := by
  rw [target] at h
  split at h
  · cases h
  · case _ parent left parents =>
    split at h
    · case isTrue folder =>
      split at h
      · cases h
      · case isFalse plain =>
        simp only [Bool.or_eq_true, decide_eq_true_eq, not_or] at plain
        obtain ⟨⟨whole, stays⟩, noParent⟩ := plain
        have same := trimmed_of_length whole
        rw [same] at stays noParent parents
        refine ⟨_, _, parent, left, (dropLast_append_getLastD stays).symm, ?_, parents, ?_⟩
        · rw [Bool.or_eq_true]
          exact not_or.mpr ⟨stays, noParent⟩
        · split at h
          · cases h
          · cases h
          · case _ path old =>
            rw [same] at old
            split at h
            · cases h
            · exact .link path _ old rfl h
          · case _ entry noFolder noLink old =>
            rw [same] at old h
            have here := (Except.ok.inj h).symm
            cases entry with
            | none => exact .file none old (.inl rfl) here
            | some tree =>
              cases tree with
              | file bytes => exact .file _ old (.inr ⟨bytes, rfl⟩) here
              | folder entries => exact absurd rfl (noFolder entries)
              | link path => exact absurd rfl (noLink path)
    · cases h

theorem target_eq_of_entry {root : FileTree} {links left : Nat} {place parent : Place}
    {before : List Text} {last : Text} {entry : Option FileTree}
    (named : ¬(staysAt last || isParent last))
    (parents : follow root links place before = .ok (parent, left))
    (old : entry? root parent last = .ok entry)
    (leaf : entry = none ∨ ∃ bytes, entry = some (.file bytes)) :
    target root links place (before ++ [last]) = .ok (parent ++ [last]) := by
  have folder := (entry?_eq_ok_iff.mp old).1
  have full : ¬last.isEmpty := fun empty => named (by simp [staysAt, empty])
  have trims : ((before ++ [last]).reverse.dropWhile List.isEmpty).reverse = before ++ [last] := by
    rw [List.reverse_append, List.reverse_singleton, List.singleton_append,
      List.dropWhile_cons_of_neg full, List.reverse_cons, List.reverse_reverse]
  rw [target]
  split
  · case _ fault failed =>
    rw [trims, List.dropLast_concat, parents] at failed
    cases failed
  · case _ parent' left' found =>
    rw [trims, List.dropLast_concat, parents] at found
    cases found
    have whole : ¬(((before ++ [last]).reverse.dropWhile List.isEmpty).reverse.length <
        (before ++ [last]).length || staysAt
          (((before ++ [last]).reverse.dropWhile List.isEmpty).reverse.getLastD []) ||
        isParent (((before ++ [last]).reverse.dropWhile List.isEmpty).reverse.getLastD [])) := by
      rw [trims, List.getLastD_concat]
      simpa using named
    rw [if_pos folder, if_neg whole]
    split
    · case _ fault failed =>
      rw [trims, List.getLastD_concat, old] at failed
      cases failed
    · case _ entries failed =>
      rw [trims, List.getLastD_concat, old] at failed
      cases failed
      simp at leaf
    · case _ path failed =>
      rw [trims, List.getLastD_concat, old] at failed
      cases failed
      simp at leaf
    · rw [trims, List.getLastD_concat]
theorem target_leads {root : FileTree} {written : Place} {links : Nat} {place : Place}
    {segments : List Text} (h : target root links place segments = .ok written) :
    root.Free written ∧ ∀ other bytes, root.Agree other written →
      other.get? written = some (.file bytes) →
      ∃ left, follow other links place segments = .ok (written, left) := by
  -- on the number of links: the file that a link leads to has fewer links before it
  induction links using Nat.strongRecOn generalizing place segments with
  | _ links ih =>
    obtain ⟨before, last, parent, left, rfl, name, parents, ends⟩ := target_eq_ok h
    cases ends with
    | file entry old leaf here =>
      subst here
      obtain ⟨folder, short, there⟩ := entry?_eq_ok_iff.mp old
      obtain ⟨entries, within⟩ := exists_entries folder
      have free : root.Free (parent ++ [last]) :=
        ⟨⟨parent, entries, last, rfl, within⟩, there ▸ leaf⟩
      refine ⟨free, fun other bytes agree file => ⟨left, ?_⟩⟩
      have new := entry?_eq_ok_iff.mpr ⟨isFolder_of_agree agree folder, short, file⟩
      rw [follow_append (follow_of_agree agree parents (free.ne_of_isFolder folder)),
        follow_of_node name new nofun, follow]
    | link path fewer old some_left there =>
      subst some_left
      have less : fewer < links := links_le_of_follow parents
      obtain ⟨free, leads⟩ := ih fewer less there
      refine ⟨free, fun other bytes agree file => ?_⟩
      have folder := (entry?_eq_ok_iff.mp old).1
      obtain ⟨left, leads⟩ := leads other bytes agree file
      refine ⟨left, ?_⟩
      rw [follow_append (follow_of_agree agree parents (free.ne_of_isFolder folder)),
        follow_of_link name (link_of_agree agree old), List.append_nil, leads]

/-- A disk on which the file at a path was replaced or made, and nothing else was changed. -/
structure Written (before : Disk) (path : Text) (bytes : Bytes) (after : Disk) : Prop where
  here : after.here = before.here
  file : ∃ place, before.root.Free place ∧ after.resolve path = .ok place ∧
    ∀ q, after.root.look? q = if q = place then some (.file bytes) else before.root.look? q
  read : after.read path = .ok bytes

theorem write_eq_ok {before after : Disk} {path : Text} {bytes : Bytes}
    (h : before.write path bytes = .ok after) :
    check path = .ok () ∧ ∃ place,
      target before.root maxLinks (startOf before.here path) (path.pieces '/') = .ok place ∧
      after = { before with root := before.root.put place (.file bytes) } := by
  unfold write at h
  cases checked : check path with
  | error fault =>
    rw [checked] at h
    cases h
  | ok =>
    cases leads : target before.root maxLinks (startOf before.here path) (path.pieces '/') with
    | error fault =>
      rw [checked, leads] at h
      cases h
    | ok place =>
      rw [checked, leads] at h
      cases h
      exact ⟨rfl, place, rfl, rfl⟩

theorem read_eq_ok {disk : Disk} {path : Text} {place : Place} {bytes : Bytes}
    (resolved : disk.resolve path = .ok place) (file : disk.root.get? place = some (.file bytes)) :
    disk.read path = .ok bytes := by
  rw [read, resolved]
  simp only [bind, Except.bind, file]
  rfl

theorem written_of_write {before after : Disk} {path : Text} {bytes : Bytes}
    (h : before.write path bytes = .ok after) : before.Written path bytes after := by
  obtain ⟨checked, place, to_place, rfl⟩ := write_eq_ok h
  obtain ⟨free, leads⟩ := target_leads to_place
  have file : (before.root.put place (.file bytes)).get? place = some (.file bytes) := by
    rw [← look?_eq_some_iff rfl, free.look?_put_file, if_pos rfl]
  obtain ⟨left, found⟩ := leads _ bytes (free.agree_put bytes) file
  have resolved : Disk.resolve { before with root := before.root.put place (.file bytes) } path =
      .ok place := by
    rw [resolve, checked]
    simp only [found]
    rfl
  exact ⟨rfl, ⟨place, free, resolved, free.look?_put_file bytes⟩, read_eq_ok resolved file⟩

end Disk
end Pagecraft
