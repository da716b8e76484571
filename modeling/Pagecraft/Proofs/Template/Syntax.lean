import Pagecraft.Proofs.Template.Scan

/-! Templates as syntax trees. Their printed form is what people write; their meaning is defined
part by part, without a word about passes over a text. -/
namespace Pagecraft.Template
open Text

abbrev Literal := { t : Text // t.IsPlain }

/-- The path in a marker: neither empty nor the tag of a block. -/
structure Path where
  body : Text
  plain : body.IsPlain
  ne_nil : body ≠ []
  not_tag : isTag body = false

abbrev Word := { name : Text // isWord name }

/-- A template in which loops and conditions may stand if the flags say so. Neither stands inside
of its own kind, at any depth. -/
inductive Tree : (loops conditions : Bool) → Type where
  | nil : Tree loops conditions
  | literal : Literal → Tree loops conditions → Tree loops conditions
  | value : Path → Tree loops conditions → Tree loops conditions
  | loop : Word → Tree false conditions → Tree true conditions → Tree true conditions
  | condition : Word → Tree loops false → Tree loops true → Tree loops true

def conditionName (field : Text) : Text := conditionScope ++ '.' :: field

/-- An element of a loop and its position, counted from one. -/
structure Turn where
  element : Node
  position : Nat

/-- What a marker shows. The data of the page come first; inside of a loop the position and the
element come next; what nothing answers stays as it is written. -/
def valueText (data : Node) (turn : Option Turn) (path : Text) : Text :=
  match (data.lookup? path).bind Node.text?, turn with
  | some value, _ => value
  | none, none => marker path
  | none, some turn =>
    if path = indexMarker then ofNat turn.position
    else ((turn.element.lookup? path).bind Node.text?).getD (marker path)

namespace Tree

def print : Tree loops conditions → Text
  | nil => []
  | literal t rest => t.val ++ rest.print
  | value path rest => marker path.body ++ rest.print
  | loop name body rest => openTag name.val ++ (body.print ++ (closeTag name.val ++ rest.print))
  | condition field body rest =>
    openTag (conditionName field.val) ++
      (body.print ++ (closeTag (conditionName field.val) ++ rest.print))

def eval (data : Node) (turn : Option Turn) : Tree loops conditions → Text
  | nil => []
  | literal t rest => t.val ++ rest.eval data turn
  | value path rest => valueText data turn path.body ++ rest.eval data turn
  | loop name body rest =>
    (match data.lookup? name.val with
      | some (.list elements) =>
        (elements.zipIdx 1).flatMap fun (element, position) =>
          body.eval data (some ⟨element, position⟩)
      | _ => []) ++ rest.eval data turn
  | condition field body rest =>
    (match (data.lookup? (conditionName field.val)).bind Node.text? with
      | some given => if given.allBlank then [] else body.eval data turn
      | none => []) ++ rest.eval data turn

def append : Tree loops conditions → Tree loops conditions → Tree loops conditions
  | nil, last => last
  | literal t rest, last => literal t (rest.append last)
  | value path rest, last => value path (rest.append last)
  | loop name body rest, last => loop name body (rest.append last)
  | condition field body rest, last => condition field body (rest.append last)

def concat (trees : List (Tree loops conditions)) : Tree loops conditions :=
  trees.foldr append nil

@[simp] theorem print_append (first last : Tree loops conditions) :
    (first.append last).print = first.print ++ last.print := by
  induction first with
  | nil => rfl
  | literal t rest ih => simp [append, print, ih]
  | value path rest ih => simp [append, print, ih]
  | loop name body rest _ ih => simp [append, print, ih]
  | condition field body rest _ ih => simp [append, print, ih]

@[simp] theorem print_concat (trees : List (Tree loops conditions)) :
    (concat trees).print = trees.flatMap print := by
  induction trees with
  | nil => rfl
  | cons tree trees ih => rw [concat, List.foldr_cons, print_append, ← concat, ih, List.flatMap_cons]

end Tree
end Pagecraft.Template
