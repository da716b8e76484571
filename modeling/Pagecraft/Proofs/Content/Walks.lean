import Pagecraft.Proofs.Content.Segments

/-! Where paths lead. A path leads from segment to segment, and nowhere if one of them is none. A
walk through a tree can be written down in many ways, and each of them leads to where the walk
ends. -/
namespace Pagecraft

namespace Node

inductive Leads (step : α → Node → Node → Prop) : List α → Node → Node → Prop
  | here (node : Node) : Leads step [] node node
  | step {a : α} {rest : List α} {node next found : Node} (taken : step a node next)
    (further : Leads step rest next found) : Leads step (a :: rest) node found

theorem Leads.append {step : α → Node → Node → Prop} {first rest : List α}
    {node middle found : Node} (leads : Leads step first node middle)
    (further : Leads step rest middle found) : Leads step (first ++ rest) node found := by
  induction leads with
  | here node => exact further
  | step taken _ ih => exact .step taken (ih further)

theorem foldlM_eq_some_iff {take? : Node → α → Option Node} {step : α → Node → Node → Prop}
    (same : ∀ a node next, take? node a = some next ↔ step a node next) {steps : List α}
    {node found : Node} : steps.foldlM take? node = some found ↔ Leads step steps node found := by
  constructor
  · intro walked
    induction steps generalizing node with
    | nil =>
      cases walked
      exact .here _
    | cons a steps ih =>
      rw [List.foldlM_cons] at walked
      obtain ⟨next, taken, further⟩ := Option.bind_eq_some_iff.mp walked
      exact .step ((same a node next).mp taken) (ih further)
  · intro leads
    induction leads with
    | here node => rfl
    | step taken _ ih =>
      rw [List.foldlM_cons, (same _ _ _).mpr taken]
      exact ih

/-- That a key selects a node: the field of that name, or the item at the position it gives. -/
inductive Selects (key : Text) : Node → Node → Prop
  | field {fields : List (Text × Node)} {value : Node} (h : Keyed.get? key fields = some value) :
    Selects key (.group fields) value
  | item {items : List Node} {item : Node} {position : Nat} (denotes : key.Denotes position)
    (h : items[position]? = some item) : Selects key (.list items) item

inductive HasItem (position : Nat) : Node → Node → Prop
  | item {items : List Node} {item : Node} (h : items[position]? = some item) :
    HasItem position (.list items) item

/-- Where a segment leads: from the node that its key selects along its positions. With no key in
front of them the positions start where the segment does. -/
inductive Passes (segment : Text) : Node → Node → Prop
  | positions {position : Nat} {positions : List Nat} {node found : Node}
    (spells : Segment.Spells segment [] (position :: positions))
    (descends : Leads HasItem (position :: positions) node found) : Passes segment node found
  | key {key : Text} {positions : List Nat} {node start found : Node}
    (spells : Segment.Spells segment key positions) (keyed : key = [] → positions = [])
    (selects : Selects key node start) (descends : Leads HasItem positions start found) :
    Passes segment node found

theorem child?_eq_some_iff {key : Text} {node found : Node} :
    node.child? key = some found ↔ Selects key node found := by
  constructor
  · intro h
    cases node with
    | group fields => exact .field h
    | list items =>
      obtain ⟨position, read, h⟩ := Option.bind_eq_some_iff.mp h
      exact .item (Text.toIndex?_eq_some_iff.mp read) h
    | null | flag | number | text => cases h
  · intro selects
    cases selects with
    | field h => exact h
    | item denotes h => rw [child?, Text.toIndex?_eq_some_iff.mpr denotes, Option.bind_some, h]

theorem item?_eq_some_iff (position : Nat) (node found : Node) :
    node.item? position = some found ↔ HasItem position node found := by
  constructor
  · intro h
    cases node with
    | list items => exact .item h
    | null | flag | number | text | group => cases h
  · rintro ⟨h⟩
    exact h

theorem step?_eq_some_iff {key : Option Text} {positions : List Nat} {node found : Node} :
    node.step? ⟨key, positions⟩ = some found ↔
      match key with
      | none => Leads HasItem positions node found
      | some key => ∃ start, Selects key node start ∧ Leads HasItem positions start found := by
  cases key with
  | none => exact foldlM_eq_some_iff item?_eq_some_iff
  | some key =>
    refine Option.bind_eq_some_iff.trans (exists_congr fun start => ?_)
    exact and_congr child?_eq_some_iff (foldlM_eq_some_iff item?_eq_some_iff)

theorem passes_iff (segment : Text) (node found : Node) :
    (Segment.ofText? segment).bind node.step? = some found ↔ Passes segment node found := by
  simp only [Option.bind_eq_some_iff, Segment.ofText?_eq_some_iff]
  constructor
  · rintro ⟨_, ⟨key, positions, spells, rfl⟩, taken⟩
    have taken := step?_eq_some_iff.mp taken
    cases positions with
    | nil =>
      rw [List.isEmpty_nil, Bool.not_true, Bool.and_false] at taken
      obtain ⟨start, selects, descends⟩ := taken
      exact .key spells (fun _ => rfl) selects descends
    | cons position positions =>
      cases key with
      | nil => exact .positions spells taken
      | cons c key =>
        obtain ⟨start, selects, descends⟩ := taken
        exact .key spells nofun selects descends
  · intro passes
    cases passes with
    | positions spells descends =>
      exact ⟨_, ⟨_, _, spells, rfl⟩, step?_eq_some_iff.mpr descends⟩
    | @key key positions _ start _ spells keyed selects descends =>
      refine ⟨_, ⟨_, _, spells, rfl⟩, step?_eq_some_iff.mpr ?_⟩
      have counts : (key.isEmpty && !positions.isEmpty) = false := by
        cases key with
        | nil => rw [keyed rfl]; rfl
        | cons => rfl
      rw [counts]
      exact ⟨start, selects, descends⟩

theorem lookup?_eq_some_iff {path : Text} (h : path ≠ ['.']) {node found : Node} :
    node.lookup? path = some found ↔ Leads Passes (path.pieces '.') node found := by
  rw [lookup?, if_neg h]
  exact foldlM_eq_some_iff passes_iff

theorem lookup?_key {key : Text} (noPoint : '.' ∉ key) (noBracket : '[' ∉ key) (node : Node) :
    node.lookup? key = node.child? key := by
  have ne : key ≠ ['.'] := fun eq => noPoint (eq ▸ List.mem_singleton_self '.')
  have whole : key.pieces '.' = [key] := List.splitOn_eq_singleton noPoint
  have read : Segment.ofText? key = some ⟨some key, []⟩ :=
    Segment.ofText?_eq_some_iff.mpr
      ⟨key, [], Segment.spells_key noBracket, by simp [Segment.ofParts]⟩
  rw [lookup?, if_neg ne, whole, List.foldlM_cons, read]
  change ((node.child? key).bind some).bind some = node.child? key
  rw [Option.bind_fun_some, Option.bind_fun_some]

theorem Passes.exists_spells {segment : Text} {node next : Node}
    (passes : Passes segment node next) : ∃ key positions, Segment.Spells segment key positions := by
  cases passes with
  | positions spells _ => exact ⟨_, _, spells⟩
  | key spells _ _ _ => exact ⟨_, _, spells⟩

theorem Leads.exists_spells {segments : List Text} {node found : Node}
    (leads : Leads Passes segments node found) :
    ∀ segment ∈ segments, ∃ key positions, Segment.Spells segment key positions := by
  induction leads with
  | here node => nofun
  | step passes _ ih =>
    intro segment mem
    rcases List.mem_cons.mp mem with rfl | later
    · exact passes.exists_spells
    · exact ih segment later

theorem Passes.append_bracketed {segment inside : Text} {position : Nat} {node reached next : Node}
    (ne : segment ≠ []) (passes : Passes segment node reached)
    (denotes : inside.trim.Denotes position) (item : HasItem position reached next) :
    Passes (segment ++ Segment.bracketed inside) node next := by
  have further : Leads HasItem [position] reached next := .step item (.here next)
  cases passes with
  | positions spells descends =>
    exact .positions (spells.append_bracketed denotes) (descends.append further)
  | @key key positions _ _ _ spells keyed selects descends =>
    refine .key (spells.append_bracketed denotes) (fun empty => ?_) selects
      (descends.append further)
    -- without a key and without positions there would be no segment
    obtain ⟨_, groups, eq, all⟩ := spells
    rw [keyed empty] at all
    cases all
    rw [empty] at eq
    exact absurd eq ne

end Node

/-! Walks and how they are written down -/

namespace Walk

structure Key where
  text : Text
  ne_nil : text ≠ []
  no_point : '.' ∉ text
  no_bracket : '[' ∉ text

inductive Step where
  | field (key : Key)
  | item (position : UInt64)

def Step.take? : Step → Node → Option Node
  | .field key, node => node.field? key.text
  | .item position, node => node.item? position.toNat

def arrive? (steps : List Step) (node : Node) : Option Node :=
  steps.foldlM (fun node step => step.take? node) node

/-- What a segment begins with: `key`, `0` or `[0]`. -/
inductive Opening where
  | key (key : Key)
  | number (position : UInt64)
  | bracket (position : UInt64)

/-- What goes on behind it: `[0]`, or a new segment behind a point. -/
inductive Further where
  | bracket (position : UInt64)
  | point (opening : Opening)

def number (position : UInt64) : Text := Text.ofNat position.toNat

namespace Opening

def text : Opening → Text
  | .key name => name.text
  | .number position => Walk.number position
  | .bracket position => Segment.bracketed (Walk.number position)

def step : Opening → Step
  | .key name => .field name
  | .number position | .bracket position => .item position

end Opening

namespace Further

def text : Further → Text
  | .bracket position => Segment.bracketed (number position)
  | .point opening => '.' :: opening.text

def step : Further → Step
  | .bracket position => .item position
  | .point opening => opening.step

end Further
end Walk

structure Walk where
  first : Walk.Opening
  rest : List Walk.Further

namespace Walk

def path (walk : Walk) : Text := walk.first.text ++ walk.rest.flatMap Further.text

def steps (walk : Walk) : List Step := walk.first.step :: walk.rest.map Further.step

theorem denotes_number (position : UInt64) : (number position).Denotes position.toNat :=
  Text.denotes_ofNat position.toNat_lt

theorem isDigit_of_mem_number {position : UInt64} {c : Char} (h : c ∈ number position) :
    c.isDigit := Text.isDigit_of_mem_ofNat h

theorem denotes_trim_number (position : UInt64) :
    (Text.trim (number position)).Denotes position.toNat := by
  rw [Text.trim_eq_self fun c mem => Text.not_isBlank_of_isDigit (isDigit_of_mem_number mem)]
  exact denotes_number position

theorem not_mem_number {c : Char} (h : ¬c.isDigit) (position : UInt64) : c ∉ number position :=
  fun mem => h (isDigit_of_mem_number mem)

theorem not_mem_bracketed {c : Char} (h : ¬c.isDigit) (opens : c ≠ '[') (closes : c ≠ ']')
    (position : UInt64) : c ∉ Segment.bracketed (number position) := by
  simp [Segment.bracketed, opens, closes, not_mem_number h position]

theorem Opening.text_ne_nil (opening : Opening) : opening.text ≠ [] := by
  cases opening with
  | key name => exact name.ne_nil
  | number position => exact Text.ofNat_ne_nil position.toNat
  | bracket position => exact List.cons_ne_nil _ _

theorem Opening.no_point (opening : Opening) : '.' ∉ opening.text := by
  cases opening with
  | key name => exact name.no_point
  | number position => exact not_mem_number (by decide) position
  | bracket position => exact not_mem_bracketed (by decide) (by decide) (by decide) position

theorem Opening.passes {opening : Opening} {node next : Node}
    (taken : opening.step.take? node = some next) : Node.Passes opening.text node next := by
  cases opening with
  | key name =>
    have key := Segment.spells_key name.no_bracket
    cases node with
    | group fields => exact .key key (fun _ => rfl) (.field taken) (.here next)
    | null | flag | number | text | list => cases taken
  | number position =>
    have key := Segment.spells_key (@not_mem_number '[' (by decide) position)
    obtain ⟨found⟩ := (Node.item?_eq_some_iff _ _ _).mp taken
    exact .key key (fun _ => rfl) (.item (denotes_number position) found) (.here next)
  | bracket position =>
    have empty := Segment.spells_key (@List.not_mem_nil Char '[')
    have item := (Node.item?_eq_some_iff _ _ _).mp taken
    exact .positions (empty.append_bracketed (denotes_trim_number position))
      (.step item (.here next))

/-- The segments of a path lead on as the steps of its walk do. The induction is on what is still
to come, and carries the segment that is being written with the node that it leads to so far. -/
theorem leads_append {rest : List Further} {segment : Text} {node reached found : Node}
    (noPoint : '.' ∉ segment) (ne : segment ≠ []) (passes : Node.Passes segment node reached)
    (walked : arrive? (rest.map Further.step) reached = some found) :
    Node.Leads Node.Passes (Text.pieces '.' (segment ++ rest.flatMap Further.text)) node found := by
  induction rest generalizing segment node reached with
  | nil =>
    cases walked
    have whole : Text.pieces '.' segment = [segment] := List.splitOn_eq_singleton noPoint
    rw [List.flatMap_nil, List.append_nil, whole]
    exact .step passes (.here _)
  | cons further rest ih =>
    rw [List.map_cons, arrive?, List.foldlM_cons] at walked
    obtain ⟨next, taken, walkedOn⟩ := Option.bind_eq_some_iff.mp walked
    rw [List.flatMap_cons, ← List.append_assoc]
    cases further with
    | bracket position =>
      have item := (Node.item?_eq_some_iff _ _ _).mp taken
      have longer : '.' ∉ segment ++ Segment.bracketed (number position) := by
        rw [List.mem_append, not_or]
        exact ⟨noPoint, not_mem_bracketed (by decide) (by decide) (by decide) position⟩
      exact ih longer (List.append_ne_nil_of_left_ne_nil ne _)
        (passes.append_bracketed ne (denotes_trim_number position) item) walkedOn
    | point opening =>
      have cut : Text.pieces '.' (segment ++ '.' :: (opening.text ++ rest.flatMap Further.text)) =
          segment :: Text.pieces '.' (opening.text ++ rest.flatMap Further.text) :=
        List.splitOn_append_cons_self_of_not_mem noPoint _
      rw [List.append_assoc, Further.text, List.cons_append, cut]
      exact .step passes (ih opening.no_point opening.text_ne_nil (Opening.passes taken) walkedOn)

theorem path_ne_point (walk : Walk) : walk.path ≠ ['.'] := by
  obtain ⟨c, text, eq⟩ := List.exists_cons_of_ne_nil walk.first.text_ne_nil
  have noPoint := walk.first.no_point
  rw [path, eq]
  rw [eq] at noPoint
  intro same
  exact noPoint (List.mem_cons.mpr (.inl (List.cons.inj same).1.symm))

/-- Whatever way a walk that exists is written down, the node at its end is looked up. Any path but
`.` leads where its segments lead, and nowhere with a segment that is none. -/
theorem lookup?_along (node : Node) :
    node.lookup? ['.'] = some node ∧
    (∀ (walk : Walk) (found : Node), arrive? walk.steps node = some found →
      node.lookup? walk.path = some found) ∧
    ∀ path, path ≠ ['.'] →
      (∀ found, node.lookup? path = some found ↔
        Node.Leads Node.Passes (Text.pieces '.' path) node found) ∧
      ((∃ segment ∈ Text.pieces '.' path, ∀ key positions, ¬Segment.Spells segment key positions) →
        node.lookup? path = none) := by
  refine ⟨if_pos rfl, fun walk found walked => ?_, fun path ne => ⟨fun found => ?_, ?_⟩⟩
  · rw [steps, arrive?, List.foldlM_cons] at walked
    obtain ⟨next, taken, walkedOn⟩ := Option.bind_eq_some_iff.mp walked
    have leads := leads_append walk.first.no_point walk.first.text_ne_nil
      (Opening.passes taken) walkedOn
    exact (Node.lookup?_eq_some_iff walk.path_ne_point).mpr leads
  · exact Node.lookup?_eq_some_iff ne
  · rintro ⟨segment, mem, other⟩
    cases found : node.lookup? path with
    | none => rfl
    | some reached =>
      have leads := (Node.lookup?_eq_some_iff ne).mp found
      obtain ⟨key, positions, spells⟩ := leads.exists_spells segment mem
      exact (other key positions spells).elim

def sample : Node :=
  .group
    [("faq".toList, .list [.group [(['q'], .text ['?'])], .group [(['q'], .text ['!'])]]),
      ("rows".toList, .list [.list [], .list [.flag true, .null, .flag false]])]

/-- `faq.[1].q` -/
def secondQuestion : Walk :=
  ⟨.key ⟨"faq".toList, by decide, by decide, by decide⟩,
    [.point (.bracket 1), .point (.key ⟨['q'], by decide, by decide, by decide⟩)]⟩

theorem lookup?_along_sample :
    (arrive? secondQuestion.steps sample = some (.text ['!']) ∧
      sample.lookup? "faq.[1].q".toList = some (.text ['!'])) ∧
    Node.Leads Node.Passes ["rows[ +01 ]".toList, ['2']] sample (.flag false) ∧
    (∀ key positions, ¬Segment.Spells "rows[1]]".toList key positions) ∧
    sample.lookup? "rows[1]]".toList = none := by
  have noSegment : ∀ key positions, ¬Segment.Spells "rows[1]]".toList key positions := by
    intro key positions spells
    have read := Segment.ofText?_eq_some_iff.mpr ⟨key, positions, spells, rfl⟩
    rw [show Segment.ofText? "rows[1]]".toList = none by decide] at read
    cases read
  obtain ⟨_, along, paths⟩ := lookup?_along sample
  refine ⟨⟨rfl, along secondQuestion _ rfl⟩, ?_, noSegment, ?_⟩
  · exact ((paths "rows[ +01 ].2".toList (by decide)).1 _).mp rfl
  · exact (paths "rows[1]]".toList (by decide)).2 ⟨_, List.mem_singleton_self _, noSegment⟩

end Walk
end Pagecraft
