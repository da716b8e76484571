import Pagecraft.Asset.Path
import Pagecraft.Content.Path
import Pagecraft.Review.Verdict

/-! The rules of a review: three texts that have to be filled in, at least one feature, and
asset paths that can lie below the assets directory. -/
namespace Pagecraft.Review

structure Required where
  rule : Text
  path : Text
  label : Text

def siteTitle : Required := ⟨"site_title".toList, "site.title".toList, "Site title".toList⟩

def heroHeadline : Required :=
  ⟨"hero_headline".toList, "hero.headline".toList, "Hero headline".toList⟩

def heroSubheadline : Required :=
  ⟨"hero_subheadline".toList, "hero.subheadline".toList, "Hero subheadline".toList⟩

/-- Whether no scalar is addressed, or one whose text is all blanks. -/
def isBlankAt (content : Node) (path : Text) : Bool :=
  match content.lookupText? path with
  | some value => value.allBlank
  | none => true

def Required.check (required : Required) (content : Node) : List Violation :=
  if isBlankAt content required.path then
    [{ rule := required.rule
       severity := .error
       message := required.label ++ " is required".toList
       path := some required.path
       remediation := ["Fill in `".toList ++ required.path ++ "`".toList] }]
  else []

def featuresRule : Text := "features".toList

def checkFeatures (content : Node) : List Violation :=
  match (content.lookup? featuresRule).bind Node.items? with
  | some (_ :: _) => []
  | _ =>
    [{ rule := featuresRule
       severity := .error
       message := "At least one feature is required".toList
       path := some featuresRule
       remediation := ["Add an entry to `features`".toList] }]

def assetRule : Text := "asset_references".toList

/-- An asset path is malformed if a segment below the mark is empty or the parent. -/
def isMalformed (leaf : Text) : Bool :=
  match Text.dropMark? Asset.pathMark leaf with
  | some sub => (sub.pieces '/').any fun segment => segment.isEmpty || segment = ['.', '.']
  | none => false

def malformedPath (leaf : Text) : Violation where
  rule := assetRule
  severity := .warning
  message := "Asset path `".toList ++ leaf ++ "` cannot be resolved".toList
  path := none
  remediation := ["Point the field at an uploaded file under /assets/".toList]

def checkAssets (content : Node) : List Violation :=
  (content.leaves.filter isMalformed).map malformedPath

structure Rule where
  name : Text
  check : Node → List Violation

def Required.toRule (required : Required) : Rule := ⟨required.rule, required.check⟩

def rules : List Rule :=
  [siteTitle.toRule, heroHeadline.toRule, heroSubheadline.toRule, ⟨featuresRule, checkFeatures⟩,
    ⟨assetRule, checkAssets⟩]

def review (content : Node) : Verdict := ⟨rules.flatMap fun rule => rule.check content⟩

end Pagecraft.Review
