import Mathlib.Data.List.Basic
import Pagecraft.Proofs.Text.Cut
import Pagecraft.Web.Join

/-! How a relative path is read: without the blanks at its ends, up to a query or a fragment, and
without breaks. -/
namespace Pagecraft.Url

def pathPart (t : Text) : Text := unbroken (splitAt '?' (splitAt '#' (clean t)).1).1

/-- The segments that a relative path is read as where a backslash is a slash. -/
def segmentsRead (t : Text) : List Text := segmentsOf true (pathPart t)

/-! A front that is kept: it begins and ends in a character other than a blank, and has no mark or
break in it. -/

theorem clean_append {front : Text} (first : front.head?.any (0x20 < ·.toNat))
    (last : front.getLast?.any (0x20 < ·.toNat)) (t : Text) :
    ∃ kept, kept <+: t ∧ clean (front ++ t) = front ++ kept := by
  let isEdge (c : Char) : Bool := c.toNat ≤ 0x20
  have start : (front ++ t).dropWhile isEdge = front ++ t := by
    cases front with
    | nil => cases first
    | cons c front =>
      have inner : 0x20 < c.toNat := by simpa using first
      exact List.dropWhile_cons_of_neg (by simpa [isEdge] using inner)
  have back : front.reverse.dropWhile isEdge = front.reverse := by
    rw [← List.head?_reverse] at last
    generalize front.reverse = reversed at last ⊢
    cases reversed with
    | nil => rfl
    | cons c rest =>
      have inner : 0x20 < c.toNat := of_decide_eq_true last
      exact List.dropWhile_cons_of_neg (by simpa [isEdge] using inner)
  refine ⟨(t.reverse.dropWhile isEdge).reverse, ?_, ?_⟩
  · rw [← List.reverse_suffix, List.reverse_reverse]
    exact List.dropWhile_suffix isEdge
  · change (((front ++ t).dropWhile isEdge).reverse.dropWhile isEdge).reverse = _
    rw [start, List.reverse_append, List.dropWhile_append]
    split
    case isTrue gone => rw [back, List.isEmpty_iff.mp gone]; simp
    case isFalse => simp

theorem splitAt_append {mark : Char} {front : Text} (absent : mark ∉ front) (t : Text) :
    ∃ kept, kept <+: t ∧ (splitAt mark (front ++ t)).1 = front ++ kept := by
  rw [splitAt, Text.cut?_append absent]
  cases found : Text.cut? [mark] t with
  | none => exact ⟨t, List.prefix_rfl, rfl⟩
  | some cut =>
    obtain ⟨before, after⟩ := cut
    refine ⟨before, ?_, rfl⟩
    rw [Text.eq_append_of_cut? found, List.append_assoc]
    exact List.prefix_append before _

theorem unbroken_append {front : Text} (whole : front.all (!isBreak ·)) (t : Text) :
    unbroken (front ++ t) = front ++ unbroken t := by
  rw [unbroken, List.filter_append, List.filter_eq_self.mpr (List.all_eq_true.mp whole)]
  rfl

theorem pathPart_assets (sub : Text) :
    ∃ kept, kept <+: sub ∧
      pathPart ("assets/".toList ++ sub) = "assets/".toList ++ unbroken kept := by
  obtain ⟨cleaned, begins, eq⟩ := @clean_append "assets/".toList (by decide) (by decide) sub
  obtain ⟨first, begins', eq'⟩ := @splitAt_append '#' "assets/".toList (by decide) cleaned
  obtain ⟨kept, begins'', eq''⟩ := @splitAt_append '?' "assets/".toList (by decide) first
  refine ⟨kept, begins''.trans (begins'.trans begins), ?_⟩
  rw [pathPart, eq, eq', eq'', unbroken_append (by decide)]

/-! Reading without a scheme -/

theorem read?_eq_schemeless {base : Option Url} {t : Text} (none : scheme? (pathPart t) = none) :
    ∃ query fragment, read? base t = schemeless? base (pathPart t) query fragment := by
  unfold read?
  unfold pathPart at none ⊢
  cases cut : splitAt '#' (clean t) with
  | mk path fragment =>
    cases cut' : splitAt '?' path with
    | mk path query =>
      simp only [cut, cut'] at none ⊢
      rw [none]
      exact ⟨_, _, rfl⟩

theorem join_eq {base : Url} {segments : List Text} (web : isSpecial base.scheme)
    (path : base.path = .segments segments) {t sub : Text}
    (part : pathPart t = "assets/".toList ++ sub) :
    ∃ query fragment, base.join t = .ok { base with
      path := .segments (walk segments.dropLast (segmentsRead t))
      query := query
      fragment := fragment } := by
  have none : scheme? (pathPart t) = none := by
    rw [part]
    rfl
  obtain ⟨query, fragment, eq⟩ := @read?_eq_schemeless (some base) t none
  refine ⟨query, fragment, ?_⟩
  have relative : pathPart t = 'a' :: ("ssets/".toList ++ sub) := part
  rw [join, eq, schemeless?, path, segmentsRead, relative]
  simp only [relative?]
  rw [web]
  rfl

/-! Addresses of the web -/

theorem isSpecial_of_isWeb {url : Url} (web : url.isWeb) : isSpecial url.scheme := by
  simp only [isWeb, Bool.or_eq_true, decide_eq_true_eq] at web
  rcases web with http | https
  · rw [http]
    decide
  · rw [https]
    decide

theorem shape_of_withAuthority? {scheme t : Text} {query fragment : Option Text} {url : Url}
    (read : withAuthority? scheme t query fragment = .ok url) :
    ∃ authority segments, url.authority = some authority ∧ url.path = .segments segments := by
  unfold withAuthority? at read
  cases front : authority? scheme (query.isSome || fragment.isSome) t with
  | error e =>
    rw [front] at read
    cases read
  | ok parts =>
    obtain ⟨authority, path⟩ := parts
    rw [front] at read
    cases read
    exact ⟨authority, _, rfl, rfl⟩

theorem scheme_of_file? {t : Text} {query fragment : Option Text} {url : Url}
    (read : file? t query fragment = .ok url) : url.scheme = fileScheme := by
  unfold file? at read
  split at read
  · cases read
    rfl
  · split at read
    · cases read
      rfl
    · dsimp only at read
      split at read
      · cases read
        rfl
      · split at read
        · cases read
          rfl
        · cases host : specialHost? _ with
          | error e =>
            rw [host] at read
            cases read
          | ok found =>
            rw [host] at read
            change (if _ then _ else _) = _ at read
            split at read
            · cases read
              rfl
            · cases read
              rfl

theorem shape_of_isWeb {t : Text} {address : Url} (read : ofText? t = .ok address)
    (web : address.isWeb) :
    ∃ authority segments, address.authority = some authority ∧
      address.path = .segments segments := by
  unfold ofText? read? at read
  cases cut : splitAt '#' (clean t) with
  | mk path fragment =>
    cases cut' : splitAt '?' path with
    | mk path query =>
      simp only [cut, cut'] at read
      split at read
      case h_1 => cases read
      case h_2 scheme rest _ =>
        split at read
        case isTrue =>
          rw [isWeb, scheme_of_file? read] at web
          exact absurd web (by decide)
        case isFalse =>
          split at read
          case isTrue =>
            split at read
            · cases read
            · exact shape_of_withAuthority? read
          case isFalse plain =>
            split at read
            · exact shape_of_withAuthority? read
            · cases read
              exact absurd (isSpecial_of_isWeb web) plain
            · cases read
              exact absurd (isSpecial_of_isWeb web) plain

/-! The address of a directory with a given name -/

/-- A directory whose name is a number of letters, at the root of a host. -/
def letters (count : Nat) : Url :=
  ⟨"http".toList, some ⟨[], none, "[::1]".toList, none⟩,
    .segments [List.replicate (count + 1) 'a', []], none, none⟩

def lettersText (count : Nat) : Text :=
  "http://[::1]/".toList ++ (List.replicate (count + 1) 'a' ++ ['/'])

theorem not_isDrive_letters (count : Nat) : ¬isDrive (List.replicate (count + 1) 'a') := by
  rcases count with _ | _ | count
  · decide
  · decide
  · simp [List.replicate_succ, isDrive]

theorem length_pathText_letters (count : Nat) :
    (letters count).asDirectory.pathText.length = count + 3 := by
  change (segmentsText [List.replicate (count + 1) 'a', []]).length = count + 3
  simp [segmentsText]

theorem mem_lettersText {count : Nat} {c : Char} (mem : c ∈ lettersText count) :
    c ∈ "http://[::1]/".toList ++ ['a'] := by
  unfold lettersText at mem
  simp only [List.mem_append, List.mem_replicate, List.mem_singleton] at mem ⊢
  rcases mem with front | ⟨_, rfl⟩ | rfl
  · exact .inl front
  · exact .inr rfl
  · exact .inl (by decide)

theorem clean_lettersText (count : Nat) : clean (lettersText count) = lettersText count := by
  have first : (lettersText count).head? = some 'h' := rfl
  have last : (lettersText count).getLast? = some '/' := by
    unfold lettersText
    rw [← List.append_assoc, List.getLast?_append]
    rfl
  obtain ⟨kept, begins, eq⟩ := @clean_append (lettersText count)
    (by rw [first]; decide) (by rw [last]; decide) []
  rwa [List.prefix_nil.mp begins, List.append_nil] at eq

theorem splitAt_lettersText {mark : Char} (absent : mark ∉ "http://[::1]/".toList ++ ['a'])
    (count : Nat) : splitAt mark (lettersText count) = (lettersText count, none) := by
  have whole : mark ∉ lettersText count := fun mem => absent (mem_lettersText mem)
  rw [splitAt, Text.cut?_of_not_mem whole]

theorem unbroken_lettersText (count : Nat) : unbroken (lettersText count) = lettersText count := by
  have whole : ("http://[::1]/".toList ++ ['a']).all (!isBreak ·) := by decide
  rw [List.all_eq_true] at whole
  exact List.filter_eq_self.mpr fun c mem => whole c (mem_lettersText mem)

theorem segmentsOf_letters (count : Nat) :
    segmentsOf true (List.replicate (count + 1) 'a' ++ ['/']) =
      [List.replicate (count + 1) 'a', []] := by
  have swapped : Text.swap '\\' '/' (List.replicate (count + 1) 'a' ++ ['/']) =
      List.replicate (count + 1) 'a' ++ ['/'] := by
    simp [Text.swap]
  have noSlash : '/' ∉ List.replicate (count + 1) 'a' := by simp
  rw [segmentsOf, if_pos rfl, swapped]
  exact List.splitOn_append_cons_self_of_not_mem noSlash []

theorem walk_letters (count : Nat) :
    walk [] [List.replicate (count + 1) 'a', []] = [List.replicate (count + 1) 'a', []] := by
  have kept : ∀ n, Percent.encode Percent.path (List.replicate n 'a') = List.replicate n 'a' := by
    intro n
    induction n with
    | zero => rfl
    | succ n ih =>
      rw [List.replicate_succ]
      exact congrArg ('a' :: ·) ih
  have on : step [] (List.replicate (count + 1) 'a') = [List.replicate (count + 1) 'a'] := by
    rw [step, kept]
    rfl
  calc walk [] [List.replicate (count + 1) 'a', []]
      = walk (step [] (List.replicate (count + 1) 'a')) [[]] := rfl
    _ = walk [List.replicate (count + 1) 'a'] [[]] := by rw [on]
    _ = [List.replicate (count + 1) 'a', []] := rfl

theorem ofText?_lettersText (count : Nat) : ofText? (lettersText count) = .ok (letters count) := by
  have scheme : scheme? (lettersText count) = some ("http".toList,
    "//[::1]/".toList ++ (List.replicate (count + 1) 'a' ++ ['/'])) := rfl
  have host : authority? "http".toList false
      ("[::1]/".toList ++ (List.replicate (count + 1) 'a' ++ ['/'])) =
      .ok (⟨[], none, "[::1]".toList, none⟩, '/' :: (List.replicate (count + 1) 'a' ++ ['/'])) :=
    rfl
  have made : withAuthority? "http".toList
      ("[::1]/".toList ++ (List.replicate (count + 1) 'a' ++ ['/'])) none none =
      .ok (letters count) := by
    unfold withAuthority?
    simp only [Option.isSome_none, Bool.or_self, host]
    change Except.ok { letters count with
      path := .segments (walk [] (segmentsOf true (List.replicate (count + 1) 'a' ++ ['/']))) } = _
    rw [segmentsOf_letters, walk_letters]
    rfl
  unfold ofText? read?
  simp only [clean_lettersText, splitAt_lettersText (show '#' ∉ _ by decide),
    splitAt_lettersText (show '?' ∉ _ by decide), unbroken_lettersText, scheme]
  exact made

end Pagecraft.Url
