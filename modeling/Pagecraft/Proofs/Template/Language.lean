import Pagecraft.Proofs.Content.Leaves
import Pagecraft.Proofs.Json.Numeral
import Pagecraft.Proofs.Template.Syntax

/-! The three passes carry out the template language. Each pass over the printed form of a syntax
tree gives the printed form of another: the first fills in values, the second unrolls loops, the
third settles conditions. Data without braces cannot make up new markers on the way. -/
namespace Pagecraft

def Node.IsPlain (node : Node) : Prop := ∀ leaf ∈ node.leaves, leaf.IsPlain

instance (node : Node) : Decidable node.IsPlain := List.decidableBAll _ node.leaves

theorem Text.isPlain_of_isNumeralChar {t : Text} (h : ∀ c ∈ t, isNumeralChar c) : t.IsPlain := by
  intro c hc
  constructor <;> rintro rfl <;> exact absurd (h _ hc) (by decide)

theorem Node.IsPlain.text? {node : Node} {t : Text} (plain : node.IsPlain)
    (h : node.text? = some t) : t.IsPlain := by
  cases node with
  | text value =>
    cases h
    exact plain t (by simp)
  | number value =>
    cases h
    exact Text.isPlain_of_isNumeralChar fun _ => Json.Number.isNumeralChar_of_mem_text
  | flag value => cases value <;> cases h <;> decide
  | null | list | group => simp [Node.text?] at h

theorem Node.IsPlain.lookup? {node found : Node} {path : Text} (plain : node.IsPlain)
    (h : node.lookup? path = some found) : found.IsPlain :=
  fun leaf hl => plain leaf (leaves_subset_of_lookup? h hl)

theorem Node.IsPlain.lookupText? {node : Node} {path t : Text} (plain : node.IsPlain)
    (h : node.lookupText? path = some t) : t.IsPlain := by
  obtain ⟨found, at', said⟩ := Option.bind_eq_some_iff.mp h
  exact (plain.lookup? at').text? said

theorem Node.IsPlain.of_mem_items {node item : Node} {name : Text} {items : List Node}
    (plain : node.IsPlain) (h : (node.lookup? name).bind Node.items? = some items)
    (mem : item ∈ items) : item.IsPlain := by
  obtain ⟨found, at', listed⟩ := Option.bind_eq_some_iff.mp h
  cases found with
  | list _ =>
    cases listed
    exact fun leaf hl => plain.lookup? at' leaf (leaves_subset_of_mem_items mem hl)
  | null | flag | number | text | group => simp [Node.items?] at listed

namespace Template
open Text

def literal? (t : Text) : Option Literal := if plain : t.IsPlain then some ⟨t, plain⟩ else none

theorem literal?_of_isPlain {t : Text} (plain : t.IsPlain) : literal? t = some ⟨t, plain⟩ :=
  dif_pos plain

def answer? (scope : Node) (index : Option Nat) (body : Text) : Option Text :=
  match index with
  | some position => if body = indexMarker then some (ofNat position) else scope.lookupText? body
  | none => scope.lookupText? body

theorem markerText_eq (scope : Node) (index : Option Nat) (body : Text) :
    markerText scope index body = (answer? scope index body).getD (marker body) := by
  rw [markerText.eq_def, answer?.eq_def]
  split
  · split <;> rfl
  · rfl

theorem isPlain_of_answer? {scope : Node} {index : Option Nat} {body t : Text}
    (plain : scope.IsPlain) (h : answer? scope index body = some t) : t.IsPlain := by
  rw [answer?.eq_def] at h
  split at h
  · split at h
    · cases h
      exact isPlain_of_isNumeralChar fun _ mem => isNumeralChar_of_isDigit (isDigit_of_mem_ofNat mem)
    · exact plain.lookupText? h
  · exact plain.lookupText? h

theorem isPlain_of_isWord {name : Text} (h : isWord name) : name.IsPlain := by
  intro c hc
  have : isWordChar c := by
    simp only [isWord, Bool.and_eq_true, List.all_eq_true] at h
    exact h.2 c hc
  constructor <;> rintro rfl <;> exact absurd this (by decide)

theorem isPlain_conditionName {field : Text} (h : isWord field) :
    (conditionName field).IsPlain := by
  refine IsPlain.append (by decide) fun c hc => ?_
  rcases List.mem_cons.mp hc with rfl | hc
  · decide
  · exact isPlain_of_isWord h c hc

/-- The dot keeps the names of conditions apart from those of loops. -/
theorem not_isWord_conditionName (field : Text) : ¬isWord (conditionName field) := by
  simp [isWord, conditionName, isWordChar]

theorem isCondition_conditionName {field : Text} (h : isWord field) :
    isCondition (conditionName field) := by
  have : conditionName field = (conditionScope ++ ['.']) ++ field := by simp [conditionName]
  rw [isCondition, this, dropMark?_append]
  exact h

/-! How each pass goes over a piece of printed text. -/

theorem interpolate_plain_append {u : Text} (plain : u.IsPlain) (scope : Node)
    (index : Option Nat) (t : Text) :
    interpolate scope index (u ++ t) = u ++ interpolate scope index t :=
  scan_plain_append (delimited_replaceMarker scope index) plain t

theorem interpolate_tag_append {tag : Text} (isTag : isTag tag) (plain : tag.IsPlain)
    (scope : Node) (index : Option Nat) (t : Text) :
    interpolate scope index (marker tag ++ t) = marker tag ++ interpolate scope index t := by
  refine scan_marker_append (delimited_replaceMarker scope index) plain ?_
  have ne : tag ≠ [] := by
    rintro rfl
    cases isTag
  rw [replaceMarker, marker?_marker_append ne plain.not_mem_close]
  simp [isTag]

theorem interpolate_path_append (path : Path) (scope : Node) (index : Option Nat) (t : Text) :
    interpolate scope index (marker path.body ++ t) =
      markerText scope index path.body ++ interpolate scope index t := by
  refine scan_append_of_eq_some (by simp [marker_eq]) ?_
  rw [replaceMarker, marker?_marker_append path.ne_nil path.plain.not_mem_close]
  simp [path.not_tag]

theorem block?_path_append (accept : Text → Bool) (path : Path) (t : Text) :
    block? accept (marker path.body ++ t) = none := by
  refine block?_marker_append_eq_none path.ne_nil path.plain.not_mem_close ?_ t
  intro name eq
  have := path.not_tag
  simp [eq, isTag] at this

theorem block?_closeTag_append (accept : Text → Bool) {name : Text} (plain : name.IsPlain)
    (t : Text) : block? accept (closeTag name ++ t) = none :=
  block?_marker_append_eq_none (by simp) (by simpa using plain.not_mem_close) (by simp) t

theorem block?_openTag_append_eq_none {accept : Text → Bool} {name : Text} (plain : name.IsPlain)
    (refused : ¬accept name) (t : Text) : block? accept (openTag name ++ t) = none := by
  refine block?_marker_append_eq_none (by simp) (by simpa using plain.not_mem_close) ?_ t
  intro other eq
  cases eq
  exact refused

theorem isPlain_tag {name : Text} (plain : name.IsPlain) :
    Text.IsPlain ('#' :: name) ∧ Text.IsPlain ('/' :: name) := by
  constructor
  all_goals
    intro c hc
    rcases List.mem_cons.mp hc with rfl | hc
    · decide
    · exact plain c hc

namespace Tree

/-- What the first pass makes of a template: a value where there is one, else the marker. -/
def fill (scope : Node) (index : Option Nat) : Tree loops conditions → Tree loops conditions
  | nil => nil
  | literal t rest => literal t (rest.fill scope index)
  | value path rest =>
    match (answer? scope index path.body).bind literal? with
    | some answer => literal answer (rest.fill scope index)
    | none => value path (rest.fill scope index)
  | loop name body rest => loop name (body.fill scope index) (rest.fill scope index)
  | condition field body rest =>
    condition field (body.fill scope index) (rest.fill scope index)

def elements (data : Node) (name : Text) : List Node :=
  ((data.lookup? name).bind Node.items?).getD []

/-- What the second pass makes of a template: each loop becomes its body, once per element. -/
def unroll (data : Node) : Tree loops conditions → Tree false conditions
  | nil => nil
  | literal t rest => literal t (rest.unroll data)
  | value path rest => value path (rest.unroll data)
  | loop name body rest =>
    (concat (((elements data name.val).zipIdx 1).map fun (element, position) =>
      body.fill element (some position))).append (rest.unroll data)
  | condition field body rest => condition field (body.unroll data) (rest.unroll data)

/-- What the third pass makes of a template: conditions that hold become their bodies. -/
def settle (data : Node) : Tree loops conditions → Tree loops false
  | nil => nil
  | literal t rest => literal t (rest.settle data)
  | value path rest => value path (rest.settle data)
  | loop name body rest => loop name (body.settle data) (rest.settle data)
  | condition field body rest =>
    (if holds data (conditionName field.val) then body.settle data else nil).append
      (rest.settle data)

theorem print_fill_value {scope : Node} (plain : scope.IsPlain) (index : Option Nat) (path : Path)
    (rest : Tree loops conditions) :
    ((value path rest).fill scope index).print =
      markerText scope index path.body ++ (rest.fill scope index).print := by
  rw [markerText_eq, fill]
  cases answer : answer? scope index path.body with
  | none => rfl
  | some t => simp [literal?_of_isPlain (isPlain_of_answer? plain answer), print]

theorem interpolate_print {scope : Node} (plain : scope.IsPlain) (index : Option Nat)
    (tree : Tree loops conditions) (t : Text) :
    interpolate scope index (tree.print ++ t) =
      (tree.fill scope index).print ++ interpolate scope index t := by
  induction tree generalizing t with
  | nil => rfl
  | literal u rest ih =>
    simp only [print, fill, List.append_assoc]
    rw [interpolate_plain_append u.property, ih]
  | value path rest ih =>
    rw [print_fill_value plain]
    simp only [print, List.append_assoc]
    rw [interpolate_path_append, ih]
  | loop name body rest ihBody ihRest =>
    have tag := isPlain_tag (isPlain_of_isWord name.property)
    simp only [print, fill, openTag, closeTag, List.append_assoc]
    rw [interpolate_tag_append rfl tag.1, ihBody, interpolate_tag_append rfl tag.2, ihRest]
  | condition field body rest ihBody ihRest =>
    have tag := isPlain_tag (isPlain_conditionName field.property)
    simp only [print, fill, openTag, closeTag, List.append_assoc]
    rw [interpolate_tag_append rfl tag.1, ihBody, interpolate_tag_append rfl tag.2, ihRest]

/-- A close tag is not found before its time: in a body without loops there is none of a loop, and
in a body without conditions besides none of a condition. -/
theorem cut?_closeTag_print {name : Text} (plain : name.IsPlain) (tree : Tree loops conditions)
    (noLoops : loops = false) (word : conditions = true → isWord name) (t : Text) :
    cut? (closeTag name) (tree.print ++ t) =
      (cut? (closeTag name) t).map fun (before, after) => (tree.print ++ before, after) := by
  have past {other : Text} (plainOther : other.IsPlain) (ne : other ≠ [])
      (differ : other ≠ '/' :: name) (t : Text) : cut? (closeTag name) (marker other ++ t) =
        (cut? (closeTag name) t).map fun (before, after) => (marker other ++ before, after) :=
    cut?_marker_marker_append plainOther (by simp) (isPlain_tag plain).2.not_mem_close ne differ t
  induction tree generalizing t with
  | nil => simp [print]
  | literal u rest ih =>
    simp only [print, List.append_assoc]
    rw [closeTag_eq, cut?_marker_plain_append u.property, ← closeTag_eq, ih noLoops word]
    cases cut? (closeTag name) t <;> rfl
  | value path rest ih =>
    have differ : path.body ≠ '/' :: name := by
      intro eq
      have := path.not_tag
      simp [eq, isTag] at this
    simp only [print, List.append_assoc]
    rw [past path.plain path.ne_nil differ, ih noLoops word]
    cases cut? (closeTag name) t <;> rfl
  | loop => cases noLoops
  | condition field body rest ihBody ihRest =>
    have tag := isPlain_tag (isPlain_conditionName field.property)
    -- The tag of a condition has a dot in it, and `name` has none where conditions may stand.
    have differ : '/' :: conditionName field.val ≠ '/' :: name := by
      intro eq
      have eq := (List.cons.inj eq).2
      exact not_isWord_conditionName field.val (eq ▸ word rfl)
    simp only [print, List.append_assoc]
    rw [openTag, past tag.1 (by simp) (by simp), ihBody noLoops (by simp),
      closeTag_eq (conditionName _), past tag.2 (by simp) differ, ihRest noLoops word]
    cases cut? (closeTag name) t <;> simp

theorem cut?_closeTag_body {name : Text} (plain : name.IsPlain) (body : Tree false conditions)
    (word : conditions = true → isWord name) (t : Text) :
    cut? (closeTag name) (body.print ++ (closeTag name ++ t)) = some (body.print, t) := by
  rw [cut?_closeTag_print plain body rfl word, cut?_mark_append (by simp [closeTag, marker_eq])]
  simp

theorem interpolate_print_nil {scope : Node} (plain : scope.IsPlain) (index : Option Nat)
    (tree : Tree loops conditions) :
    interpolate scope index tree.print = (tree.fill scope index).print := by
  have := interpolate_print plain index tree []
  rw [List.append_nil] at this
  rw [this]
  exact List.append_nil _

theorem isPlain_of_mem_elements {data element : Node} {name : Text} (plain : data.IsPlain)
    (mem : element ∈ elements data name) : element.IsPlain := by
  rw [elements] at mem
  cases found : (data.lookup? name).bind Node.items? with
  | none => simp [found] at mem
  | some items =>
    rw [found] at mem
    exact plain.of_mem_items found mem

theorem loopText_print {data : Node} (plain : data.IsPlain) (name : Text)
    (body : Tree loops conditions) :
    loopText data name body.print =
      ((elements data name).zipIdx 1).flatMap fun (element, position) =>
        (body.fill element (some position)).print := by
  have turns : loopText data name body.print = repeatBody body.print (elements data name) := by
    rw [loopText, elements]
    cases (data.lookup? name).bind Node.items? <;> rfl
  rw [turns, repeatBody]
  apply List.flatMap_congr
  rintro ⟨element, position⟩ mem
  have mem : element ∈ elements data name := List.fst_mem_of_mem_zipIdx mem
  exact interpolate_print_nil (isPlain_of_mem_elements plain mem) _ body

theorem expandLoops_print {data : Node} (plain : data.IsPlain) (tree : Tree loops conditions)
    (t : Text) :
    expandLoops data (tree.print ++ t) = (tree.unroll data).print ++ expandLoops data t := by
  have delimited := delimited_block isWord (loopText data)
  induction tree generalizing t with
  | nil => rfl
  | literal u rest ih =>
    simp only [print, unroll, List.append_assoc]
    rw [expandLoops, scan_plain_append delimited u.property, ← expandLoops, ih]
  | value path rest ih =>
    simp only [print, unroll, List.append_assoc]
    rw [expandLoops, scan_marker_append delimited path.plain (by simp [block?_path_append]),
      ← expandLoops, ih]
  | loop name body rest ihBody ihRest =>
    have plainName := isPlain_of_isWord name.property
    simp only [print, unroll, List.append_assoc, print_append, print_concat]
    rw [expandLoops, scan_block name.property plainName.not_mem_close
        (cut?_closeTag_body plainName body (fun _ => name.property) _),
      ← expandLoops, ihRest, loopText_print plain, List.flatMap_map]
  | condition field body rest ihBody ihRest =>
    have plainName := isPlain_conditionName field.property
    have tag := isPlain_tag plainName
    have opened (t : Text) := block?_openTag_append_eq_none plainName
      (not_isWord_conditionName field.val) t
    have closed (t : Text) := block?_closeTag_append isWord plainName t
    simp only [print, unroll, List.append_assoc]
    rw [expandLoops, openTag, scan_marker_append delimited tag.1 (by rw [← openTag, opened]; rfl),
      ← expandLoops, ihBody, expandLoops, closeTag_eq,
      scan_marker_append delimited tag.2 (by rw [← closeTag_eq, closed]; rfl), ← expandLoops,
      ihRest]

@[simp] theorem print_settle_of_no_conditions (data : Node) (tree : Tree loops conditions)
    (none : conditions = false) : (tree.settle data).print = tree.print := by
  induction tree with
  | nil => rfl
  | literal u rest ih => simp [settle, print, ih none]
  | value path rest ih => simp [settle, print, ih none]
  | loop name body rest ihBody ihRest => simp [settle, print, ihBody none, ihRest none]
  | condition => cases none

theorem applyConditions_print (data : Node) (tree : Tree loops conditions)
    (noLoops : loops = false) (t : Text) :
    applyConditions data (tree.print ++ t) =
      (tree.settle data).print ++ applyConditions data t := by
  have delimited := delimited_block isCondition (conditionText data)
  induction tree generalizing t with
  | nil => rfl
  | literal u rest ih =>
    simp only [print, settle, List.append_assoc]
    rw [applyConditions, scan_plain_append delimited u.property, ← applyConditions, ih noLoops]
  | value path rest ih =>
    simp only [print, settle, List.append_assoc]
    rw [applyConditions, scan_marker_append delimited path.plain (by simp [block?_path_append]),
      ← applyConditions, ih noLoops]
  | loop => cases noLoops
  | condition field body rest _ ih =>
    subst noLoops
    have plainName := isPlain_conditionName field.property
    simp only [print, settle, List.append_assoc, print_append]
    rw [applyConditions, scan_block (isCondition_conditionName field.property)
        plainName.not_mem_close (cut?_closeTag_body plainName body (by simp) _),
      ← applyConditions, ih rfl, conditionText]
    split
    · rw [print_settle_of_no_conditions data body rfl]
    · rfl

@[simp] theorem print_settle_append (data : Node) (first last : Tree loops conditions) :
    ((first.append last).settle data).print =
      (first.settle data).print ++ (last.settle data).print := by
  induction first with
  | nil => rfl
  | literal u rest ih => simp [append, settle, print, ih]
  | value path rest ih => simp [append, settle, print, ih]
  | loop name body rest _ ih => simp [append, settle, print, ih]
  | condition field body rest _ ih => simp [append, settle, ih]

@[simp] theorem print_settle_concat (data : Node) (trees : List (Tree loops conditions)) :
    ((concat trees).settle data).print = trees.flatMap fun tree => (tree.settle data).print := by
  induction trees with
  | nil => rfl
  | cons tree trees ih =>
    rw [concat, List.foldr_cons, print_settle_append, ← concat, ih, List.flatMap_cons]

/-! The meaning of a template is what the passes leave of it. -/

theorem valueText_none (data : Node) (path : Text) :
    valueText data none path = (answer? data none path).getD (marker path) := by
  rw [valueText.eq_def, answer?, Node.lookupText?]
  cases (data.lookup? path).bind Node.text? <;> rfl

theorem valueText_some (data element : Node) (position : Nat) (path : Text) :
    valueText data (some ⟨element, position⟩) path =
      (answer? data none path).getD
        ((answer? element (some position) path).getD (marker path)) := by
  rw [valueText.eq_def, answer?, answer?, Node.lookupText?, Node.lookupText?]
  cases (data.lookup? path).bind Node.text? with
  | some _ => rfl
  | none => by_cases asked : path = indexMarker <;> simp [asked]

theorem fill_value_of_none {scope : Node} {index : Option Nat} {path : Path}
    (h : answer? scope index path.body = none) (rest : Tree loops conditions) :
    (value path rest).fill scope index = value path (rest.fill scope index) := by
  rw [fill, h]
  rfl

theorem fill_value_of_some {scope : Node} {index : Option Nat} {path : Path} {t : Text}
    (plain : t.IsPlain) (h : answer? scope index path.body = some t)
    (rest : Tree loops conditions) :
    (value path rest).fill scope index = literal ⟨t, plain⟩ (rest.fill scope index) := by
  rw [fill, h, Option.bind_some, literal?_of_isPlain plain]

theorem print_condition_settled (data : Node) (turn : Option Turn) (field : Text)
    {body : Tree loops false} {meant : Tree conditions false}
    (same : body.print = meant.eval data turn) :
    (if holds data (conditionName field) then body else nil).print =
      match (data.lookup? (conditionName field)).bind Node.text? with
      | some given => if given.allBlank then [] else meant.eval data turn
      | none => [] := by
  rw [holds, Node.lookupText?]
  cases (data.lookup? (conditionName field)).bind Node.text? with
  | none => rfl
  | some given => cases blank : given.allBlank <;> simp [blank, same, print]

theorem print_settle_fill_fill {data element : Node} (plain : data.IsPlain)
    (plainElement : element.IsPlain) (position : Nat) (tree : Tree loops conditions)
    (noLoops : loops = false) :
    (((tree.fill data none).fill element (some position)).settle data).print =
      tree.eval data (some ⟨element, position⟩) := by
  induction tree with
  | nil => rfl
  | literal u rest ih => simp only [fill, settle, print, eval, ih noLoops]
  | value path rest ih =>
    rw [eval, valueText_some, ← ih noLoops]
    cases outer : answer? data none path.body with
    | some t =>
      rw [fill_value_of_some (isPlain_of_answer? plain outer) outer]
      rfl
    | none =>
      rw [fill_value_of_none outer]
      cases inner : answer? element (some position) path.body with
      | some t =>
        rw [fill_value_of_some (isPlain_of_answer? plainElement inner) inner]
        rfl
      | none =>
        rw [fill_value_of_none inner]
        rfl
  | loop => cases noLoops
  | condition field body rest ihBody ihRest =>
    simp only [fill, settle, print_append, eval, ihRest noLoops]
    exact congrArg (· ++ _) (print_condition_settled data _ field.val (ihBody noLoops))

theorem eval_loop (data : Node) (turn : Option Turn) (name : Word) (body : Tree false conditions)
    (rest : Tree true conditions) :
    (loop name body rest).eval data turn =
      (((elements data name.val).zipIdx 1).flatMap fun (element, position) =>
        body.eval data (some ⟨element, position⟩)) ++ rest.eval data turn := by
  rw [eval, elements]
  congr 1
  cases data.lookup? name.val with
  | none => rfl
  | some found => cases found <;> rfl

theorem print_settle_unroll_fill {data : Node} (plain : data.IsPlain)
    (tree : Tree loops conditions) :
    (((tree.fill data none).unroll data).settle data).print = tree.eval data none := by
  induction tree with
  | nil => rfl
  | literal u rest ih => simp only [fill, unroll, settle, print, eval, ih]
  | value path rest ih =>
    rw [eval, valueText_none, ← ih]
    cases shown : answer? data none path.body with
    | some t =>
      rw [fill_value_of_some (isPlain_of_answer? plain shown) shown]
      rfl
    | none =>
      rw [fill_value_of_none shown]
      rfl
  | loop name body rest _ ih =>
    rw [eval_loop, ← ih]
    simp only [fill, unroll, print_settle_append, print_settle_concat, List.flatMap_map]
    congr 1
    apply List.flatMap_congr
    rintro ⟨element, position⟩ mem
    have mem : element ∈ elements data name.val := List.fst_mem_of_mem_zipIdx mem
    -- The data of the page have answered first; a turn answers what they left open.
    exact print_settle_fill_fill plain (isPlain_of_mem_elements plain mem) position body rfl
  | condition field body rest ihBody ihRest =>
    simp only [fill, unroll, settle, print_append, eval, ihRest]
    exact congrArg (· ++ _) (print_condition_settled data _ field.val ihBody)

end Tree

/-- Rendering carries out the template language: the page made of a printed template is the page
that the template means. -/
theorem render_print (template : Tree true true) (data : Node) (plain : data.IsPlain) :
    render template.print data = template.eval data none := by
  have filled := Tree.interpolate_print_nil plain none template
  have unrolled := Tree.expandLoops_print plain (template.fill data none) []
  have settled := Tree.applyConditions_print data ((template.fill data none).unroll data) rfl []
  rw [List.append_nil] at unrolled settled
  rw [render, filled, unrolled, show expandLoops data [] = [] from rfl, List.append_nil, settled,
    show applyConditions data [] = [] from rfl, List.append_nil, Tree.print_settle_unroll_fill plain]

/-- A loop whose body shows its position, a field of the element, and, under a condition on a link
of the page, another; then a condition that has a loop in it. -/
def pricesTemplate : Tree true true :=
  .loop ⟨"plans".toList, by decide⟩
    (.value ⟨indexMarker, by decide, by decide, by decide⟩
      (.literal ⟨[' '], by decide⟩
        (.condition ⟨['x'], by decide⟩ (.value ⟨"name".toList, by decide, by decide, by decide⟩ .nil)
          .nil)))
    (.condition ⟨['y'], by decide⟩
      (.loop ⟨"plans".toList, by decide⟩ (.value ⟨['.'], by decide, by decide, by decide⟩ .nil)
        .nil)
      (.value ⟨"none".toList, by decide, by decide, by decide⟩ .nil))

def pricesContent : Node :=
  .group
    [("plans".toList, .list [.group [("name".toList, .text ['A'])], .text ['B']]),
      ("socialLinks".toList, .group [(['x'], .text ['1']), (['y'], .text [' '])])]

theorem render_pricesTemplate :
    pricesContent.IsPlain ∧
      render pricesTemplate.print pricesContent =
        "1 A2 ".toList ++ marker "name".toList ++ marker "none".toList :=
  ⟨by decide, (render_print pricesTemplate pricesContent (by decide)).trans (by decide)⟩

end Template
end Pagecraft
