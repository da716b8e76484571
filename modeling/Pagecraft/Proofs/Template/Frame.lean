import Pagecraft.Proofs.Template.Scan

/-! What stands around a template stands around its page. No mark begins in a front without `{{`
that does not end in `{`, and none ends in a back without `}`, however broken the template between
them is and whatever tags the content puts into it. -/
namespace Pagecraft.Template

/-- That no mark begins in a text, whatever follows it. -/
structure IsFront (front : Text) : Prop where
  no_opening : ¬['{', '{'] <:+: front
  no_brace : front.getLast? ≠ some '{'

theorem IsFront.not_opens {front s : Text} (isFront : IsFront front) (ne : s ≠ [])
    (suffix : s <:+ front) (t : Text) : ¬opens (s ++ t) := by
  rw [opens_iff]
  rintro ⟨rest, eq⟩
  match s with
  | [c] =>
    -- the last character of the front would be the first brace
    obtain ⟨before, whole⟩ := suffix
    have brace : '{' = c := (List.cons.inj eq).1
    refine isFront.no_brace ?_
    rw [← whole, List.getLast?_concat, brace]
  | c :: d :: s =>
    obtain ⟨sameFirst, eq⟩ := List.cons.inj eq
    obtain ⟨sameSecond, _⟩ := List.cons.inj eq
    refine isFront.no_opening (List.IsInfix.trans ⟨[], s, ?_⟩ suffix.isInfix)
    rw [← sameFirst, ← sameSecond]
    rfl

theorem scan_framed {replace : Text → Option (Text × Text)} (delimited : Delimited replace)
    {front back : Text} (isFront : IsFront front) (noClose : '}' ∉ back) (t : Text) :
    scan replace 0 (front ++ t ++ back) = front ++ scan replace 0 t ++ back := by
  have copied : scan replace 0 (front ++ (t ++ back)) = front ++ scan replace 0 (t ++ back) :=
    scan_append_of_forall fun s ne suffix => delimited.eq_none _ (isFront.not_opens ne suffix _)
  have behind : scan replace 0 (t ++ back) = scan replace 0 t ++ back :=
    scan_append_right delimited noClose t 0 (Nat.zero_le _)
  rw [List.append_assoc, copied, behind, List.append_assoc]

/-- Rendering a template with text around it gives its page with this text around it. -/
theorem render_framed {front back : Text} (isFront : IsFront front) (noClose : '}' ∉ back)
    (template : Text) (data : Node) :
    render (front ++ template ++ back) data = front ++ render template data ++ back := by
  have first : interpolate data none (front ++ template ++ back) = _ :=
    scan_framed (delimited_replaceMarker data none) isFront noClose template
  have second (t : Text) : expandLoops data (front ++ t ++ back) = _ :=
    scan_framed (delimited_block isWord (loopText data)) isFront noClose t
  have third (t : Text) : applyConditions data (front ++ t ++ back) = _ :=
    scan_framed (delimited_block isCondition (conditionText data)) isFront noClose t
  rw [render, first, second, third]
  rfl

def loopInContent : Node :=
  .group [(['a'], .text (openTag ['w'])), (['w'], .list [.text ['1'], .text ['2']])]

/-- A loop that is opened by the content and closed here, and a marker that breaks off. -/
def brokenTemplate : Text := marker ['a'] ++ marker ['.'] ++ closeTag ['w'] ++ ['{', '{', 'b']

/-- Neither the braces in front nor the open tag that breaks off behind have a part in the page. -/
theorem render_framed_broken :
    IsFront ['}', '}', '{', ' '] ∧ '}' ∉ [' ', '{', '{', '#', 'w'] ∧
      render (['}', '}', '{', ' '] ++ brokenTemplate ++ [' ', '{', '{', '#', 'w']) loopInContent =
        ['}', '}', '{', ' '] ++ ['1', '2', '{', '{', 'b'] ++ [' ', '{', '{', '#', 'w'] := by
  have isFront : IsFront ['}', '}', '{', ' '] := ⟨by decide, by decide⟩
  have noClose : '}' ∉ [' ', '{', '{', '#', 'w'] := by decide
  have page : render brokenTemplate loopInContent = ['1', '2', '{', '{', 'b'] := by decide
  have framed := render_framed isFront noClose brokenTemplate loopInContent
  rw [page] at framed
  exact ⟨isFront, noClose, framed⟩

end Pagecraft.Template
