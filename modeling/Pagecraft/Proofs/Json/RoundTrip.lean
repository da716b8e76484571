import Pagecraft.Json.Printer
import Pagecraft.Proofs.Json.Tokens

/-! Printed values are read again. The compact and the pretty text of a value differ in their white
space only, and a reader passes over any of it, so both are read as the same written value. -/
namespace Pagecraft.Json

/-- White space between the tokens of a text: before what stands on a level of nesting, and after
the colon of a member. -/
structure Spacing where
  line : Nat → Text
  colon : Text
  line_space : ∀ level, ∀ c ∈ line level, Written.isSpace c
  colon_space : ∀ c ∈ colon, Written.isSpace c

namespace Spacing

def none : Spacing := ⟨fun _ => [], [], by simp, by simp⟩

theorem newLine_space (level : Nat) : ∀ c ∈ newLine level, Written.isSpace c := by
  intro c mem
  rcases List.mem_cons.mp mem with rfl | mem
  · rfl
  · rw [List.eq_of_mem_replicate mem]
    rfl

def lines : Spacing := ⟨newLine, [' '], newLine_space, List.forall_mem_singleton.mpr rfl⟩

end Spacing

section
variable (s : Spacing)

mutual

def spaced (level : Nat) : Json → Text
  | .null => "null".toList
  | .bool true => "true".toList
  | .bool false => "false".toList
  | .number n => n.text
  | .string t => quote t
  | .array [] => ['[', ']']
  | .array (item :: items) =>
    '[' :: s.line (level + 1) ++ spaced (level + 1) item ++ spacedItems (level + 1) items ++
      s.line level ++ [']']
  | .object [] => ['{', '}']
  | .object ((name, value) :: members) =>
    '{' :: s.line (level + 1) ++ quote name ++ ':' :: s.colon ++ spaced (level + 1) value ++
      spacedMembers (level + 1) members ++ s.line level ++ ['}']

def spacedItems (level : Nat) : List Json → Text
  | [] => []
  | item :: items => ',' :: s.line level ++ spaced level item ++ spacedItems level items

def spacedMembers (level : Nat) : List (Text × Json) → Text
  | [] => []
  | (name, value) :: members =>
    ',' :: s.line level ++ quote name ++ ':' :: s.colon ++ spaced level value ++
      spacedMembers level members

end

end

mutual

theorem compact_eq (level : Nat) : ∀ value, compact value = spaced .none level value
  | .null => rfl
  | .bool true => rfl
  | .bool false => rfl
  | .number _ => rfl
  | .string _ => rfl
  | .array [] => rfl
  | .array (item :: items) => by
    rw [compact, spaced, compact_eq (level + 1) item, compactItems_eq (level + 1) items]
    simp [Spacing.none]
  | .object [] => rfl
  | .object ((name, value) :: members) => by
    rw [compact, spaced, compact_eq (level + 1) value, compactMembers_eq (level + 1) members]
    simp [Spacing.none]

theorem compactItems_eq (level : Nat) : ∀ items, compactItems items = spacedItems .none level items
  | [] => rfl
  | item :: items => by
    rw [compactItems, spacedItems, compact_eq level item, compactItems_eq level items]
    simp [Spacing.none]

theorem compactMembers_eq (level : Nat) :
    ∀ members, compactMembers members = spacedMembers .none level members
  | [] => rfl
  | (name, value) :: members => by
    rw [compactMembers, spacedMembers, compact_eq level value, compactMembers_eq level members]
    simp [Spacing.none]

end

mutual

theorem pretty_eq (level : Nat) : ∀ value, pretty level value = spaced .lines level value
  | .null => rfl
  | .bool true => rfl
  | .bool false => rfl
  | .number _ => rfl
  | .string _ => rfl
  | .array [] => rfl
  | .array (item :: items) => by
    rw [pretty, spaced, pretty_eq (level + 1) item, prettyItems_eq (level + 1) items]
    rfl
  | .object [] => rfl
  | .object ((name, value) :: members) => by
    rw [pretty, spaced, pretty_eq (level + 1) value, prettyMembers_eq (level + 1) members]
    simp [Spacing.lines]

theorem prettyItems_eq (level : Nat) :
    ∀ items, prettyItems level items = spacedItems .lines level items
  | [] => rfl
  | item :: items => by
    rw [prettyItems, spacedItems, pretty_eq level item, prettyItems_eq level items]
    rfl

theorem prettyMembers_eq (level : Nat) :
    ∀ members, prettyMembers level members = spacedMembers .lines level members
  | [] => rfl
  | (name, value) :: members => by
    rw [prettyMembers, spacedMembers, pretty_eq level value, prettyMembers_eq level members]
    simp [Spacing.lines]

end

/-! What is read from a text of a value -/

def Number.numeral (number : Number) : Numeral :=
  ((Written.numeral? number.text).map Prod.fst).getD (.ofInt 0)

theorem Number.numeral_integer (value : Int) : (integer value).numeral = .ofInt value := by
  have read : Written.numeral? (Text.ofInt value ++ []) = some (.ofInt value, []) :=
    Written.numeral?_ofInt value rfl
  rw [List.append_nil] at read
  rw [numeral, text, read]
  rfl

mutual

def written : Json → Written
  | .null => .null
  | .bool value => .bool value
  | .number n => .number n.numeral
  | .string t => .string (t.map glyph)
  | .array items => .array (writtenItems items)
  | .object members => .object (writtenMembers members)

def writtenItems : List Json → List Written
  | [] => []
  | item :: items => written item :: writtenItems items

def writtenMembers : List (Text × Json) → List (List Glyph × Written)
  | [] => []
  | (name, value) :: members => (name.map glyph, written value) :: writtenMembers members

end

namespace Written

theorem endsNumeral_space_append {space t : Text} (isSpace : ∀ c ∈ space, isSpace c)
    (ends : endsNumeral t) : endsNumeral (space ++ t) := by
  cases space with
  | nil => exact ends
  | cons c space =>
    have first := isSpace c (by simp)
    simp only [Written.isSpace, Bool.or_eq_true, beq_iff_eq] at first
    rcases first with ((rfl | rfl) | rfl) | rfl <;> rfl

theorem value?_space_append {space : Text} (isSpace : ∀ c ∈ space, isSpace c) (fuel : Nat)
    (t : Text) : value? fuel (space ++ t) = value? fuel t := by
  cases fuel with
  | zero => simp only [value?]
  | succ fuel => simp only [value?, skipSpace_append isSpace]

theorem not_isSpace_of_numeral {c : Char} (first : c.isDigit ∨ c = '-') : ¬isSpace c := by
  intro space
  simp only [isSpace, Bool.or_eq_true, beq_iff_eq] at space
  rcases space with ((rfl | rfl) | rfl) | rfl <;> revert first <;> decide

theorem value?_numeral {c : Char} (first : c.isDigit ∨ c = '-') (fuel : Nat) (t : Text) :
    value? (fuel + 1) (c :: t) =
      (numeral? (c :: t)).map fun (numeral, rest) => (.number numeral, rest) := by
  rw [value?, skipSpace_cons (not_isSpace_of_numeral first)]
  split <;> simp_all

theorem value?_quote (fuel : Nat) (t rest : Text) :
    value? (fuel + 1) (quote t ++ rest) = some (.string (t.map glyph), rest) := by
  have shape : quote t ++ rest = '"' :: (t.flatMap escape ++ '"' :: rest) := by simp [quote]
  have mark (t : Text) : skipSpace ('"' :: t) = '"' :: t := skipSpace_cons (by decide) t
  simp [shape, value?, mark, glyphs?_quoted]

theorem name?_quote {space : Text} (isSpace : ∀ c ∈ space, isSpace c) (name rest : Text) :
    name? (space ++ quote name ++ ':' :: rest) = some (name.map glyph, rest) := by
  have shape : space ++ quote name ++ ':' :: rest =
      space ++ '"' :: (name.flatMap escape ++ '"' :: ':' :: rest) := by simp [quote]
  rw [shape, name?, skipSpace_append isSpace, skipSpace_cons (by decide)]
  simp only [glyphs?_quoted]
  rfl

/-! One step of a reader, for each kind of container. -/

theorem value?_array {fuel : Nat} {t after rest : Text} {item : Written} {items : List Written}
    (occupied : ∀ rest, skipSpace t ≠ ']' :: rest) (first : value? fuel t = some (item, after))
    (more : items? fuel after = some (items, rest)) :
    value? (fuel + 1) ('[' :: t) = some (.array (item :: items), rest) := by
  have brace : skipSpace ('[' :: t) = '[' :: t := skipSpace_cons (by decide) t
  simp [value?, brace, first, more]

theorem value?_object {fuel : Nat} {t u after rest : Text} {name : List Glyph} {value : Written}
    {members : List (List Glyph × Written)} (occupied : ∀ rest, skipSpace t ≠ '}' :: rest)
    (named : name? t = some (name, u)) (first : value? fuel u = some (value, after))
    (more : members? fuel after = some (members, rest)) :
    value? (fuel + 1) ('{' :: t) = some (.object ((name, value) :: members), rest) := by
  have brace : skipSpace ('{' :: t) = '{' :: t := skipSpace_cons (by decide) t
  simp [value?, brace, named, first, more]

theorem items?_close {space : Text} (isSpace : ∀ c ∈ space, isSpace c) (fuel : Nat)
    (rest : Text) : items? (fuel + 1) (space ++ ']' :: rest) = some ([], rest) := by
  rw [items?, skipSpace_append isSpace, skipSpace_cons (by decide)]
  rfl

theorem items?_comma {fuel : Nat} {t after rest : Text} {item : Written} {items : List Written}
    (first : value? fuel t = some (item, after))
    (more : items? fuel after = some (items, rest)) :
    items? (fuel + 1) (',' :: t) = some (item :: items, rest) := by
  rw [items?, skipSpace_cons (by decide)]
  simp [first, more]

theorem members?_close {space : Text} (isSpace : ∀ c ∈ space, isSpace c) (fuel : Nat)
    (rest : Text) : members? (fuel + 1) (space ++ '}' :: rest) = some ([], rest) := by
  rw [members?, skipSpace_append isSpace, skipSpace_cons (by decide)]
  rfl

theorem members?_comma {fuel : Nat} {t u after rest : Text} {name : List Glyph} {value : Written}
    {members : List (List Glyph × Written)} (named : name? t = some (name, u))
    (first : value? fuel u = some (value, after))
    (more : members? fuel after = some (members, rest)) :
    members? (fuel + 1) (',' :: t) = some ((name, value) :: members, rest) := by
  rw [members?, skipSpace_cons (by decide)]
  simp [named, first, more]

end Written

theorem exists_cons_ofInt (value : Int) :
    ∃ c t, Text.ofInt value = c :: t ∧ (c.isDigit ∨ c = '-') := by
  cases value with
  | ofNat n =>
    obtain ⟨c, t, digits, digit⟩ := Text.exists_cons_ofNat n
    exact ⟨c, t, digits, .inl digit⟩
  | negSucc n => exact ⟨'-', _, rfl, .inr rfl⟩

theorem exists_cons_spaced (s : Spacing) (level : Nat) {value : Json} (integral : value.Integral) :
    ∃ c t, spaced s level value = c :: t ∧ ¬Written.isSpace c ∧ c ≠ ']' := by
  cases integral with
  | null => exact ⟨_, _, rfl, by decide, by decide⟩
  | bool value => cases value <;> exact ⟨_, _, rfl, by decide, by decide⟩
  | string => exact ⟨_, _, rfl, by decide, by decide⟩
  | @number value word =>
    cases value with
    | float => exact word.elim
    | integer value =>
      obtain ⟨c, t, eq, first⟩ := exists_cons_ofInt value
      refine ⟨c, t, eq, Written.not_isSpace_of_numeral first, ?_⟩
      rintro rfl
      revert first
      decide
  | @array items => cases items <;> exact ⟨_, _, rfl, by decide, by decide⟩
  | @object members => cases members <;> exact ⟨_, _, rfl, by decide, by decide⟩

section
variable {s : Spacing}

/-- That a value is read from its text on any level, whatever follows that no numeral goes on
with. -/
def ReadBack (s : Spacing) (value : Json) : Prop :=
  ∀ level fuel rest, Written.endsNumeral rest → (spaced s level value).length < fuel →
    Written.value? fuel (spaced s level value ++ rest) = some (value.written, rest)

theorem endsNumeral_spacedItems (level : Nat) (items : List Json) {t : Text}
    (ends : Written.endsNumeral t) : Written.endsNumeral (spacedItems s level items ++ t) := by
  cases items with
  | nil => exact ends
  | cons => rfl

theorem endsNumeral_spacedMembers (level : Nat) (members : List (Text × Json)) {t : Text}
    (ends : Written.endsNumeral t) : Written.endsNumeral (spacedMembers s level members ++ t) := by
  cases members with
  | nil => exact ends
  | cons => rfl

/-- The fuel that is left for the items is more than the length of their text, and so it is at each
item after the one before it was read. -/
theorem items?_spacedItems {items : List Json} (each : ∀ item ∈ items, ReadBack s item)
    {space : Text} (isSpace : ∀ c ∈ space, Written.isSpace c) {level fuel : Nat}
    (enough : (spacedItems s level items).length < fuel) (rest : Text) :
    Written.items? fuel (spacedItems s level items ++ (space ++ ']' :: rest)) =
      some (writtenItems items, rest) := by
  have close : Written.endsNumeral (space ++ ']' :: rest) :=
    Written.endsNumeral_space_append isSpace rfl
  induction items generalizing fuel with
  | nil =>
    obtain ⟨fuel, rfl⟩ := Nat.exists_eq_add_one_of_ne_zero (Nat.ne_zero_of_lt enough)
    exact Written.items?_close isSpace fuel rest
  | cons item items ih =>
    obtain ⟨fuel, rfl⟩ := Nat.exists_eq_add_one_of_ne_zero (Nat.ne_zero_of_lt enough)
    simp only [spacedItems, List.cons_append, List.length_cons, List.length_append] at enough
    have shape : spacedItems s level (item :: items) ++ (space ++ ']' :: rest) =
        ',' :: (s.line level ++ (spaced s level item ++
          (spacedItems s level items ++ (space ++ ']' :: rest)))) := by
      simp [spacedItems]
    rw [shape]
    refine Written.items?_comma ?_
      (ih (fun other mem => each other (List.mem_cons_of_mem item mem)) (by omega))
    rw [Written.value?_space_append (s.line_space level)]
    exact each item List.mem_cons_self level fuel _ (endsNumeral_spacedItems level items close)
      (by omega)

theorem members?_spacedMembers {members : List (Text × Json)}
    (each : ∀ member ∈ members, ReadBack s member.2) {space : Text}
    (isSpace : ∀ c ∈ space, Written.isSpace c) {level fuel : Nat}
    (enough : (spacedMembers s level members).length < fuel) (rest : Text) :
    Written.members? fuel (spacedMembers s level members ++ (space ++ '}' :: rest)) =
      some (writtenMembers members, rest) := by
  have close : Written.endsNumeral (space ++ '}' :: rest) :=
    Written.endsNumeral_space_append isSpace rfl
  induction members generalizing fuel with
  | nil =>
    obtain ⟨fuel, rfl⟩ := Nat.exists_eq_add_one_of_ne_zero (Nat.ne_zero_of_lt enough)
    exact Written.members?_close isSpace fuel rest
  | cons member members ih =>
    obtain ⟨name, value⟩ := member
    obtain ⟨fuel, rfl⟩ := Nat.exists_eq_add_one_of_ne_zero (Nat.ne_zero_of_lt enough)
    simp only [spacedMembers, List.cons_append, List.length_cons, List.length_append] at enough
    have shape : spacedMembers s level ((name, value) :: members) ++ (space ++ '}' :: rest) =
        ',' :: (s.line level ++ quote name ++ ':' :: (s.colon ++ (spaced s level value ++
          (spacedMembers s level members ++ (space ++ '}' :: rest))))) := by
      simp [spacedMembers]
    rw [shape]
    refine Written.members?_comma (Written.name?_quote (s.line_space level) name _) ?_
      (ih (fun other mem => each other (List.mem_cons_of_mem _ mem)) (by omega))
    have shorter : (spaced s level value).length < fuel := by omega
    rw [Written.value?_space_append s.colon_space]
    exact each (name, value) List.mem_cons_self level fuel _
      (endsNumeral_spacedMembers level members close) shorter

theorem readBack_array {items : List Json} (all : ∀ item ∈ items, item.Integral)
    (each : ∀ item ∈ items, ReadBack s item) : ReadBack s (.array items) := by
  intro level fuel rest ends enough
  obtain ⟨fuel, rfl⟩ := Nat.exists_eq_add_one_of_ne_zero (Nat.ne_zero_of_lt enough)
  cases items with
  | nil => rfl
  | cons item items =>
    simp only [spaced, List.cons_append, List.length_cons, List.length_append] at enough
    have close : Written.endsNumeral (s.line level ++ ']' :: rest) :=
      Written.endsNumeral_space_append (s.line_space level) rfl
    have shape : spaced s level (.array (item :: items)) ++ rest =
        '[' :: (s.line (level + 1) ++ (spaced s (level + 1) item ++
          (spacedItems s (level + 1) items ++ (s.line level ++ ']' :: rest)))) := by
      simp [spaced]
    rw [shape]
    have more : Written.items? fuel (spacedItems s (level + 1) items ++
        (s.line level ++ ']' :: rest)) = some (writtenItems items, rest) :=
      items?_spacedItems (fun other mem => each other (List.mem_cons_of_mem item mem))
        (s.line_space level) (by omega) rest
    refine Written.value?_array ?_ ?_ more
    · -- The text of the first item cannot be taken for the end of an empty array.
      obtain ⟨c, t, eq, notSpace, ne⟩ :=
        exists_cons_spaced s (level + 1) (all item List.mem_cons_self)
      intro _ closed
      rw [Written.skipSpace_append (s.line_space _), eq, List.cons_append,
        Written.skipSpace_cons notSpace] at closed
      exact ne (List.cons.inj closed).1
    · rw [Written.value?_space_append (s.line_space _)]
      exact each item List.mem_cons_self (level + 1) fuel _
        (endsNumeral_spacedItems (level + 1) items close) (by omega)

theorem readBack_object {members : List (Text × Json)}
    (each : ∀ member ∈ members, ReadBack s member.2) : ReadBack s (.object members) := by
  intro level fuel rest ends enough
  obtain ⟨fuel, rfl⟩ := Nat.exists_eq_add_one_of_ne_zero (Nat.ne_zero_of_lt enough)
  cases members with
  | nil => rfl
  | cons member members =>
    obtain ⟨name, value⟩ := member
    simp only [spaced, List.cons_append, List.length_cons, List.length_append] at enough
    have close : Written.endsNumeral (s.line level ++ '}' :: rest) :=
      Written.endsNumeral_space_append (s.line_space level) rfl
    have shape : spaced s level (.object ((name, value) :: members)) ++ rest =
        '{' :: (s.line (level + 1) ++ quote name ++ ':' :: (s.colon ++
          (spaced s (level + 1) value ++
            (spacedMembers s (level + 1) members ++ (s.line level ++ '}' :: rest))))) := by
      simp [spaced]
    rw [shape]
    have more : Written.members? fuel (spacedMembers s (level + 1) members ++
        (s.line level ++ '}' :: rest)) = some (writtenMembers members, rest) :=
      members?_spacedMembers (fun other mem => each other (List.mem_cons_of_mem _ mem))
        (s.line_space level) (by omega) rest
    have shorter : (spaced s (level + 1) value).length < fuel := by omega
    refine Written.value?_object ?_ (Written.name?_quote (s.line_space (level + 1)) name _) ?_ more
    · intro _ closed
      rw [List.append_assoc, Written.skipSpace_append (s.line_space _), quote, List.cons_append,
        List.cons_append, Written.skipSpace_cons (by decide)] at closed
      cases closed
    · rw [Written.value?_space_append s.colon_space]
      exact each (name, value) List.mem_cons_self (level + 1) fuel _
        (endsNumeral_spacedMembers (level + 1) members close) shorter

theorem readBack_of_integral {value : Json} (integral : value.Integral) : ReadBack s value := by
  induction integral with
  | null =>
    intro level fuel rest ends enough
    obtain ⟨fuel, rfl⟩ := Nat.exists_eq_add_one_of_ne_zero (Nat.ne_zero_of_lt enough)
    rfl
  | bool value =>
    intro level fuel rest ends enough
    obtain ⟨fuel, rfl⟩ := Nat.exists_eq_add_one_of_ne_zero (Nat.ne_zero_of_lt enough)
    cases value <;> rfl
  | @number value word =>
    intro level fuel rest ends enough
    obtain ⟨fuel, rfl⟩ := Nat.exists_eq_add_one_of_ne_zero (Nat.ne_zero_of_lt enough)
    cases value with
    | float => exact word.elim
    | integer value =>
      obtain ⟨c, t, eq, first⟩ := exists_cons_ofInt value
      have shape : spaced s level (.number (.integer value)) = Text.ofInt value := rfl
      rw [shape, eq, List.cons_append, Written.value?_numeral first, ← List.cons_append, ← eq,
        Written.numeral?_ofInt value ends, written, Number.numeral_integer]
      rfl
  | string value =>
    intro level fuel rest ends enough
    obtain ⟨fuel, rfl⟩ := Nat.exists_eq_add_one_of_ne_zero (Nat.ne_zero_of_lt enough)
    exact Written.value?_quote fuel value rest
  | array all each => exact readBack_array all each
  | object _ each => exact readBack_object each

theorem Written.ofText?_spaced (s : Spacing) (level : Nat) {value : Json}
    (integral : value.Integral) : ofText? (spaced s level value) = some value.written := by
  have read := readBack_of_integral (s := s) integral level _ [] rfl (Nat.lt_succ_self _)
  rw [List.append_nil] at read
  rw [ofText?, read]
  rfl

end

/-! Written values as values -/

theorem writtenItems_eq (items : List Json) : writtenItems items = items.map written := by
  induction items with
  | nil => rfl
  | cons item items ih => rw [writtenItems, ih, List.map_cons]

theorem ofWrittenItems?_writtenItems {depth : Nat} {items : List Json}
    (each : ∀ item ∈ items, item.depth ≤ depth → ofWritten? depth item.written = some item)
    (shallow : depthOfItems items ≤ depth) :
    ofWrittenItems? depth (writtenItems items) = some items := by
  induction items with
  | nil => rfl
  | cons item items ih =>
    rw [depthOfItems, Nat.max_le] at shallow
    rw [writtenItems, ofWrittenItems?, each item List.mem_cons_self shallow.1,
      ih (fun other mem => each other (List.mem_cons_of_mem item mem)) shallow.2]
    rfl

theorem ofWrittenMembers?_writtenMembers {depth : Nat} {members : List (Text × Json)}
    (each : ∀ member ∈ members, member.2.depth ≤ depth →
      ofWritten? depth member.2.written = some member.2)
    (shallow : depthOfMembers members ≤ depth) :
    ofWrittenMembers? depth (writtenMembers members) = some members := by
  induction members with
  | nil => rfl
  | cons member members ih =>
    obtain ⟨name, value⟩ := member
    rw [depthOfMembers, Nat.max_le] at shallow
    rw [writtenMembers, ofWrittenMembers?, Glyph.text?_map_glyph,
      each (name, value) List.mem_cons_self shallow.1,
      ih (fun other mem => each other (List.mem_cons_of_mem _ mem)) shallow.2]
    rfl

theorem ofWritten?_written {value : Json} (integral : value.Integral) {depth : Nat}
    (shallow : value.depth ≤ depth) : ofWritten? depth value.written = some value := by
  induction integral generalizing depth with
  | null => rfl
  | bool => rfl
  | @number value word =>
    cases value with
    | float => exact word.elim
    | integer value =>
      rw [written, Number.numeral_integer, ofWritten?, Numeral.value?_ofInt word, Option.map_some]
  | string => rw [written, ofWritten?, Glyph.text?_map_glyph, Option.map_some]
  | array _ each =>
    rw [Json.depth] at shallow
    rw [written, ofWritten?, if_neg (by omega), ofWrittenItems?_writtenItems
      (fun item mem => each item mem) (by omega), Option.map_some]
  | object _ each =>
    rw [Json.depth] at shallow
    rw [written, ofWritten?, if_neg (by omega), ofWrittenMembers?_writtenMembers
      (fun member mem => each member mem) (by omega), Option.map_some]

theorem ofText?_spaced (s : Spacing) (level : Nat) {value : Json} (integral : value.Integral)
    (shallow : value.depth ≤ maxDepth) : ofText? (spaced s level value) = some value := by
  rw [ofText?, Written.ofText?_spaced s level integral, Option.bind_some,
    ofWritten?_written integral shallow]

theorem compact_injective {a b : Json} (integral : a.Integral) (integral' : b.Integral)
    (same : a.compact = b.compact) : a = b := by
  rw [compact_eq 0, compact_eq 0] at same
  have written : a.written = b.written := by
    have read := Written.ofText?_spaced .none 0 integral
    rw [same, Written.ofText?_spaced .none 0 integral'] at read
    exact (Option.some.inj read).symm
  have read := ofWritten?_written integral (Nat.le_max_left a.depth b.depth)
  rw [written, ofWritten?_written integral' (Nat.le_max_right a.depth b.depth)] at read
  exact (Option.some.inj read).symm

end Pagecraft.Json
