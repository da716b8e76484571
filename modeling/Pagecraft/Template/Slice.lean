import Pagecraft.Content.Slice
import Pagecraft.Template.Render

/-! Rendering by slices. A scan goes through a text by byte offsets: up to one of them the text has been
copied or replaced, and from another one the next `{{` is looked for. -/
namespace Pagecraft.Sliced
open Template

structure Mark where
  body : Text
  stop : Nat

structure Region where
  name : Text
  body : Text
  stop : Nat

/-- The marker that begins at an offset. No text begins at an offset that no slice can have. -/
def mark (source : Text) (start : Nat) : Sliced (Option Mark) := do
  match (source.cutAt? start).bind fun (_, t) => Text.dropMark? ['{', '{'] t with
  | none => return none
  | some inner =>
    let length := (Text.find? ['}'] inner).getD inner.byteCount
    let body ← slice inner 0 length
    if body.isEmpty then return none
    else
      let after ← sliceFrom inner length
      if (Text.dropMark? ['}', '}'] after).isSome then return some ⟨body, start + 2 + length + 2⟩
      else return none

def region (accept : Text → Bool) (source : Text) (start : Nat) : Sliced (Option Region) := do
  match ← mark source start with
  | none => return none
  | some opening =>
    match Text.dropMark? ['#'] opening.body with
    | none => return none
    | some name =>
      if accept name then
        let after ← sliceFrom source opening.stop
        match Text.find? (closeTag name) after with
        | none => return none
        | some length =>
          let body ← slice source opening.stop (opening.stop + length)
          return some ⟨name, body, opening.stop + length + (closeTag name).byteCount⟩
      else return none

/-- What is put in place of what begins at an offset, and the offset behind that. -/
abbrev Replacer := Text → Nat → Sliced (Option (Text × Nat))

/-- What a scan has put out, up to where the source is in it, and from where the scan goes on. -/
structure Scan where
  out : Text
  copied : Nat
  cursor : Nat
deriving DecidableEq, Repr

def Scan.start : Scan := ⟨[], 0, 0⟩

def turn (replacer : Replacer) (source : Text) (scan : Scan) : Sliced (Option Scan) := do
  let ahead ← sliceFrom source scan.cursor
  match Text.find? ['{', '{'] ahead with
  | none => return none
  | some offset =>
    let start := scan.cursor + offset
    match ← replacer source start with
    | some (replacement, stop) =>
      let kept ← slice source scan.copied start
      return some ⟨scan.out ++ kept ++ replacement, stop, stop⟩
    | none => return some ⟨scan.out, scan.copied, start + 1⟩

def proceed (replacer : Replacer) (source : Text) (scan : Scan) : Sliced (Scan ⊕ Text) := do
  match ← turn replacer source scan with
  | some next => return .inl next
  | none =>
    let rest ← sliceFrom source scan.copied
    return .inr (scan.out ++ rest)

def scanFrom (replacer : Replacer) (source : Text) (scan : Scan) : Sliced Text :=
  repeatM (proceed replacer source) scan

def scan (replacer : Replacer) (source : Text) : Sliced Text := scanFrom replacer source .start

def markValue (scope : Node) (index : Option Nat) (body : Text) : Sliced (Option Text) :=
  match index with
  | some position =>
    if body = indexMarker then return some (Text.ofNat position) else lookupText body scope
  | none => lookupText body scope

def replaceMark (scope : Node) (index : Option Nat) : Replacer := fun source start => do
  match ← mark source start with
  | none => return none
  | some found =>
    if isTag found.body then return none
    else
      match ← markValue scope index found.body with
      | some value => return some (value, found.stop)
      | none =>
        let own ← slice source start found.stop
        return some (own, found.stop)

def interpolate (scope : Node) (index : Option Nat) (source : Text) : Sliced Text :=
  scan (replaceMark scope index) source

def repeatBody (body : Text) (elements : List Node) : Sliced Text := do
  let turns ← (elements.zipIdx 1).mapM fun (element, position) =>
    interpolate element (some position) body
  return turns.flatten

def replaceLoop (data : Node) : Replacer := fun source start => do
  match ← region isWord source start with
  | none => return none
  | some found =>
    match (← lookup found.name data).bind Node.items? with
    | some elements => return some (← repeatBody found.body elements, found.stop)
    | none => return some ([], found.stop)

def replaceCondition (data : Node) : Replacer := fun source start => do
  match ← region isCondition source start with
  | none => return none
  | some found =>
    match ← lookupText found.name data with
    | some value => return some (if value.allBlank then [] else found.body, found.stop)
    | none => return some ([], found.stop)

inductive Stage where
  | markers (scope : Node) (index : Option Nat)
  | loops (data : Node)
  | conditions (data : Node)

def Stage.replacer : Stage → Replacer
  | .markers scope index => replaceMark scope index
  | .loops data => replaceLoop data
  | .conditions data => replaceCondition data

def render (template : Text) (data : Node) : Sliced Text := do
  let interpolated ← scan (Stage.markers data none).replacer template
  let expanded ← scan (Stage.loops data).replacer interpolated
  scan (Stage.conditions data).replacer expanded

end Pagecraft.Sliced
