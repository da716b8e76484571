import Pagecraft.Content.Path
import Pagecraft.Template.Marker

/-! Rendering: markers are replaced by content, then loops are repeated, then conditions are
kept or dropped, each pass over the output of the one before. Whatever does not resolve stays
in the page as it is written. -/
namespace Pagecraft.Template

/-- Replaces what `replace` recognises at the start of a suffix, from left to right. It answers
a replacement and the text after what it replaces; what was put in is not scanned again. The
first argument counts the characters that a replacement has already covered. -/
def scan (replace : Text → Option (Text × Text)) : Nat → Text → Text
  | _, [] => []
  | covered + 1, _ :: t => scan replace covered t
  | 0, c :: t =>
    match replace (c :: t) with
    | some (replacement, rest) => replacement ++ scan replace (t.length - rest.length) t
    | none => c :: scan replace 0 t

def indexMarker : Text := "@index".toList

/-- What a marker shows: the position if it asks for it inside a loop, else the text at its
path, else itself. -/
def markerText (scope : Node) (index : Option Nat) (body : Text) : Text :=
  match index with
  | some position =>
    if body = indexMarker then Text.ofNat position
    else (scope.lookupText? body).getD (marker body)
  | none => (scope.lookupText? body).getD (marker body)

def replaceMarker (scope : Node) (index : Option Nat) (t : Text) : Option (Text × Text) :=
  match marker? t with
  | some (body, rest) => if isTag body then none else some (markerText scope index body, rest)
  | none => none

def interpolate (scope : Node) (index : Option Nat) (t : Text) : Text :=
  scan (replaceMarker scope index) 0 t

def repeatBody (body : Text) (elements : List Node) : Text :=
  (elements.zipIdx 1).flatMap fun (element, position) => interpolate element (some position) body

def loopText (data : Node) (name body : Text) : Text :=
  match (data.lookup? name).bind Node.items? with
  | some elements => repeatBody body elements
  | none => []

def expandLoops (data : Node) (t : Text) : Text :=
  scan (fun t => (block? isWord t).map fun b => (loopText data b.name b.body, b.rest)) 0 t

def holds (data : Node) (name : Text) : Bool :=
  match data.lookupText? name with
  | some value => !value.allBlank
  | none => false

def conditionText (data : Node) (name body : Text) : Text := if holds data name then body else []

def applyConditions (data : Node) (t : Text) : Text :=
  scan (fun t => (block? isCondition t).map fun b => (conditionText data b.name b.body, b.rest)) 0 t

def render (template : Text) (data : Node) : Text :=
  applyConditions data (expandLoops data (interpolate data none template))

end Pagecraft.Template
