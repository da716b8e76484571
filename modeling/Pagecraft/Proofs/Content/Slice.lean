import Pagecraft.Content.Slice
import Pagecraft.Proofs.Content.Segments
import Pagecraft.Proofs.Text.Slice

/-! Looking up a path by slices. Every slice can be taken, and what is found is what the segments of the
path lead to. -/
namespace Pagecraft.Sliced
open Text

theorem slice_group (inside rest : Text) :
    slice ('[' :: inside ++ ']' :: rest) 1 (byteCount ('[' :: inside)) = pure inside :=
  slice_append ['['] inside (']' :: rest)

theorem sliceFrom_group (group rest : Text) :
    sliceFrom (group ++ ']' :: rest) (byteCount group + 1) = pure rest := by
  have behind : byteCount (group ++ [']']) = byteCount group + 1 := by
    rw [byteCount_append]
    rfl
  have whole := sliceFrom_append (group ++ [']']) rest
  rwa [behind, List.append_assoc] at whole

theorem group_of_not_mem {groups : Text} (ne : groups ≠ []) (open' : ']' ∉ groups) (node : Node) :
    group (groups, node) = pure (.inr none) := by
  have more : groups.isEmpty = false := List.isEmpty_eq_false_iff.mpr ne
  rw [group, more, find?_of_not_mem open']
  rfl

/-- A group is read up to its closing bracket, which is looked for before the opening one. -/
theorem group_append_cons {first : Text} (absent : ']' ∉ first) (rest : Text) (node : Node) :
    group (first ++ ']' :: rest, node) =
      match (Segment.position? first).bind fun position => node.item? position with
      | some next => pure (.inl (rest, next))
      | none => pure (.inr none) := by
  have more : (first ++ ']' :: rest).isEmpty = false := by simp
  rw [group, more, find?_append_cons absent]
  cases first with
  | nil => rfl
  | cons c inside =>
    by_cases opening : c = '['
    · subst opening
      have opens : (dropMark? ['['] ('[' :: inside ++ ']' :: rest)).isSome := rfl
      simp only [opens, slice_group, sliceFrom_group, pure_bind, Segment.position?,
        Bool.false_eq_true, if_true, if_false]
      cases (Text.trim inside).toIndex? with
      | none => rfl
      | some position =>
        dsimp only [Option.bind_some]
        cases node.item? position <;> rfl
    · have other : Segment.position? (c :: inside) = none := by
        rw [Segment.position?.eq_def]
        split
        case h_1 => simp_all
        case h_2 => rfl
      have closed : (dropMark? ['['] (c :: inside ++ ']' :: rest)).isSome = false := by
        simp [dropMark?, Ne.symm opening]
      simp only [closed, other, Option.bind_none]
      rfl

theorem descend_eq (groups : Text) (node : Node) :
    descend groups node = pure ((Segment.positions? groups).bind fun positions =>
      positions.foldlM (fun node position => node.item? position) node) := by
  -- on the length, for what follows a closing bracket is shorter
  induction len : groups.length using Nat.strongRecOn generalizing groups node with
  | _ n ih =>
    subst len
    by_cases closed : ']' ∈ groups
    · obtain ⟨first, rest, rfl, absent⟩ := List.eq_append_cons_of_mem closed
      have shorter : rest.length < (first ++ ']' :: rest).length := by
        simp only [List.length_append, List.length_cons]
        omega
      have read := group_append_cons absent rest node
      rw [Segment.positions?_append_cons absent]
      cases place : Segment.position? first with
      | none =>
        rw [place] at read
        exact repeatM_of_eq_inr read
      | some position =>
        rw [place, Option.bind_some] at read
        simp only [Option.bind_some, Option.bind_map, Function.comp_def, List.foldlM_cons]
        cases found : node.item? position with
        | none =>
          rw [found] at read
          rw [descend, repeatM_of_eq_inr read]
          cases Segment.positions? rest <;> rfl
        | some next =>
          rw [found] at read
          exact (repeatM_of_eq_inl read).trans (ih rest.length shorter rest next rfl)
    · cases groups with
      | nil => exact repeatM_of_eq_inr rfl
      | cons c groups =>
        have whole : Text.pieces ']' (c :: groups) = [c :: groups] :=
          List.splitOn_eq_singleton closed
        rw [Segment.positions?, whole]
        exact repeatM_of_eq_inr (group_of_not_mem (List.cons_ne_nil c groups) closed node)

theorem parts_eq (segment : Text) :
    parts segment = pure (segment.takeWhile (· != '['), segment.dropWhile (· != '[')) := by
  by_cases bracket : '[' ∈ segment
  · obtain ⟨key, rest, rfl, absent⟩ := List.eq_append_cons_of_mem bracket
    have inKey : ∀ c ∈ key, (c != '[') = true := by
      intro c mem
      simpa using ne_of_mem_of_not_mem mem absent
    rw [parts, find?_append_cons absent, List.takeWhile_append_of_pos inKey,
      List.dropWhile_append_of_pos inKey]
    simp [slice_zero, sliceFrom_append]
  · have all : ∀ c ∈ segment, (c != '[') = true := by
      intro c mem
      simpa using ne_of_mem_of_not_mem mem bracket
    rw [parts, find?_of_not_mem bracket, List.takeWhile_eq_self_iff.mpr all,
      List.dropWhile_eq_nil_iff.mpr all]

theorem step_eq (segment : Text) (node : Node) :
    step segment node = pure ((Segment.ofText? segment).bind node.step?) := by
  rw [step, parts_eq, pure_bind, Segment.ofText?]
  simp only [Option.bind_map, Function.comp_def, Node.step?]
  generalize segment.takeWhile (· != '[') = key
  generalize segment.dropWhile (· != '[') = groups
  cases key.isEmpty && !groups.isEmpty with
  | true => exact descend_eq groups node
  | false =>
    simp only [Bool.false_eq_true, if_false]
    cases node.child? key with
    | none => cases Segment.positions? groups <;> rfl
    | some start => exact descend_eq groups start

theorem walk_eq (segments : List Text) (node : Node) :
    walk segments node = pure (segments.foldlM
      (fun node segment => (Segment.ofText? segment).bind node.step?) node) := by
  induction segments generalizing node with
  | nil => rfl
  | cons segment segments ih =>
    rw [walk, step_eq, pure_bind, List.foldlM_cons]
    cases (Segment.ofText? segment).bind node.step? with
    | none => rfl
    | some next => exact ih next

theorem lookup_eq (path : Text) (node : Node) : lookup path node = pure (node.lookup? path) := by
  rw [lookup, Node.lookup?]
  split
  · rfl
  · exact walk_eq _ node

theorem lookupText_eq (path : Text) (node : Node) :
    lookupText path node = pure (node.lookupText? path) := by
  rw [lookupText, lookup_eq, pure_bind]
  rfl

end Pagecraft.Sliced
