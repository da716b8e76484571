import Pagecraft.Asset.Path
import Pagecraft.Proofs.Text.Cut
import Pagecraft.Proofs.Web.Relative
import Pagecraft.Proofs.Web.Walk
import Pagecraft.Source.Basic

/-! Whether an asset path can lead out of the root of a source on the web. The scheme and the
authority always stay. The path stays below the root if it does not go up from there in the
segments as they are read, in which an encoded dot is a dot and breaks count for nothing. -/
namespace Pagecraft

namespace Url

theorem asDirectory_eq {address : Url} {segments : List Text}
    (path : address.path = .segments segments) :
    ∃ front, address.asDirectory = { address with path := .segments (front ++ [[]]) } := by
  unfold asDirectory
  rw [path]
  dsimp only
  split
  case isTrue last =>
    obtain ⟨front, rfl⟩ := List.getLast?_eq_some_iff.mp last
    exact ⟨front, by rw [← path]⟩
  case isFalse => exact ⟨segments, rfl⟩

theorem pathText_eq {url : Url} {authority : Authority} {segments : List Text}
    (host : url.authority = some authority) (path : url.path = .segments segments) :
    url.pathText = segmentsText segments := by
  unfold pathText
  rw [host, path]
  cases segments with
  | nil => rfl
  | cons first rest => cases first <;> cases rest <;> rfl

theorem join_asset {address : Url} {front : List Text} (web : address.isWeb)
    (directory : address.asDirectory = { address with path := .segments (front ++ [[]]) })
    {asset : Text} (marked : Asset.isPath asset) :
    ∃ joined, address.asDirectory.join (Asset.relative asset) = .ok joined ∧
      joined.scheme = address.scheme ∧ joined.authority = address.authority ∧
      joined.path = .segments (walk front (segmentsRead (Asset.relative asset))) := by
  obtain ⟨sub, rfl⟩ := Asset.isPath_iff.mp marked
  rw [Asset.relative_pathMark_append]
  obtain ⟨kept, _, part⟩ := pathPart_assets sub
  rw [directory]
  obtain ⟨query, fragment, joins⟩ := @join_eq { address with path := .segments (front ++ [[]]) }
    (front ++ [[]]) (isSpecial_of_isWeb web) rfl _ _ part
  rw [List.dropLast_concat] at joins
  exact ⟨_, joins, rfl, rfl, rfl⟩

theorem begins_of_staysBelow {t asset : Text} {address joined : Url}
    (read : ofText? t = .ok address) (web : address.isWeb) (marked : Asset.isPath asset)
    (stays : staysBelow [] (segmentsRead (Asset.relative asset)))
    (joins : address.asDirectory.join (Asset.relative asset) = .ok joined) :
    address.asDirectory.pathText <+: joined.pathText := by
  obtain ⟨authority, segments, host, path⟩ := shape_of_isWeb read web
  obtain ⟨front, directory⟩ := asDirectory_eq path
  obtain ⟨found, finds, _, sameHost, foundPath⟩ := join_asset web directory marked
  obtain rfl : found = joined := Except.ok.inj (finds.symm.trans joins)
  have root : address.asDirectory.pathText = segmentsText (front ++ [[]]) := by
    rw [directory]
    exact pathText_eq host rfl
  have below := walk_append front stays
  rw [List.append_nil] at below
  rw [root, pathText_eq (sameHost.trans host) foundPath, below]
  exact segmentsText_directory front (walk_ne_nil [] (List.splitOn_ne_nil _ _))

/-- Any other path leaves some root: one whose name is longer than what is left of the walk. -/
theorem exists_not_begins {asset : Text} (marked : Asset.isPath asset)
    (leaves : ¬staysBelow [] (segmentsRead (Asset.relative asset))) :
    ∃ t address joined, ofText? t = .ok address ∧ address.isWeb ∧
      address.asDirectory.join (Asset.relative asset) = .ok joined ∧
      ¬address.asDirectory.pathText <+: joined.pathText := by
  obtain ⟨result, ends⟩ := exists_walk_eq leaves
  have read := ofText?_lettersText (segmentsText result).length
  generalize size : (segmentsText result).length = count at read
  obtain ⟨joined, joins, _, host, path⟩ :=
    @join_asset (letters count) [List.replicate (count + 1) 'a'] rfl rfl asset marked
  refine ⟨lettersText count, letters count, joined, read, rfl, joins, fun begins => ?_⟩
  rw [ends _ (not_isDrive_letters count)] at path
  rw [pathText_eq host path] at begins
  have long := begins.length_le
  rw [length_pathText_letters, size] at long
  omega

end Url

namespace Source

theorem staysBelow_of_isInside {asset : Text} (marked : Asset.isPath asset)
    (inside : isInside (Asset.relative asset)) (plain : '%' ∉ asset)
    (whole : ∀ c ∈ asset, ¬Url.isBreak c) :
    Url.staysBelow [] (Url.segmentsRead (Asset.relative asset)) := by
  obtain ⟨sub, rfl⟩ := Asset.isPath_iff.mp marked
  rw [Asset.relative_pathMark_append] at inside ⊢
  obtain ⟨kept, begins, part⟩ := Url.pathPart_assets sub
  have pieces : ∀ t, Text.pieces '/' ("assets/".toList ++ t) =
      "assets".toList :: Text.pieces '/' t := by
    have noSlash : '/' ∉ "assets".toList := by decide
    exact fun t => List.splitOn_append_cons_self_of_not_mem noSlash t
  simp only [isInside, pieces, Bool.and_eq_true, Bool.not_eq_true', List.contains_eq_mem,
    decide_eq_false_iff_not, List.mem_append, List.mem_cons, not_or] at inside
  obtain ⟨⟨_, _, noBackslash⟩, _, noParent⟩ := inside
  have unbroken : Url.unbroken kept = kept := by
    apply List.filter_eq_self.mpr
    intro c mem
    have among : c ∈ Asset.pathMark ++ sub := List.mem_append_right _ (begins.subset mem)
    simpa using whole c among
  have read : Url.segmentsRead ("assets/".toList ++ sub) =
      "assets".toList :: Text.pieces '/' kept := by
    have free : '\\' ∉ "assets/".toList ++ kept := by
      rw [List.mem_append, not_or]
      exact ⟨by decide, fun mem => noBackslash (begins.subset mem)⟩
    rw [Url.segmentsRead, part, unbroken, Url.segmentsOf, if_pos rfl, Text.swap_of_not_mem free,
      pieces]
  rw [read, Url.staysBelow_cons]
  refine ⟨by decide, Url.staysBelow_of_dropLast (List.cons_ne_nil _ _) fun segment mem up => ?_⟩
  have among := Text.mem_pieces_of_mem_dropLast begins mem
  have free : '%' ∉ segment := fun sign => plain (by simp [Text.mem_of_mem_pieces among sign])
  rw [Url.eq_of_isUp free up] at among
  exact noParent among

/-- The scheme, the host and the port of a source on the web do not depend on what is fetched. Its
path is a matter of the segments that are read: an asset path stays below the roots of all sources
if and only if it stays below its own start. The check for parents makes sure of that only where
nothing is encoded or broken. -/
theorem confined_iff_staysBelow {asset : Text} (marked : Asset.isPath asset)
    (inside : isInside (Asset.relative asset)) :
    (∀ t address, Url.ofText? t = .ok address → address.isWeb →
      ∃ joined, address.asDirectory.join (Asset.relative asset) = .ok joined ∧
        joined.scheme = address.scheme ∧ joined.authority = address.authority) ∧
    ((∀ t address joined, Url.ofText? t = .ok address → address.isWeb →
      address.asDirectory.join (Asset.relative asset) = .ok joined →
      address.asDirectory.pathText <+: joined.pathText) ↔
        Url.staysBelow [] (Url.segmentsRead (Asset.relative asset))) ∧
    ('%' ∉ asset → (∀ c ∈ asset, ¬Url.isBreak c) →
      Url.staysBelow [] (Url.segmentsRead (Asset.relative asset))) := by
  refine ⟨?_, ⟨?_, ?_⟩, staysBelow_of_isInside marked inside⟩
  · intro t address read web
    obtain ⟨_, segments, _, path⟩ := Url.shape_of_isWeb read web
    obtain ⟨front, directory⟩ := Url.asDirectory_eq path
    obtain ⟨joined, joins, scheme, authority, _⟩ := Url.join_asset web directory marked
    exact ⟨joined, joins, scheme, authority⟩
  · intro confined
    by_contra leaves
    obtain ⟨t, address, joined, read, web, joins, outside⟩ := Url.exists_not_begins marked leaves
    exact outside (confined t address joined read web joins)
  · intro stays t address joined read web joins
    exact Url.begins_of_staysBelow read web marked stays joins

/-- Encoded dots pass the check for parents, and those that come too early lead out of the root. -/
def encodedDots : Text := "/assets/%2e%2e/%2e%2e/secret".toList

theorem join_encodedDots :
    Asset.isPath encodedDots ∧ isInside (Asset.relative encodedDots) ∧
    ∃ address joined, Url.ofText? "http://127.0.0.1:0/site/".toList = .ok address ∧
      address.isWeb ∧ address.asDirectory.join (Asset.relative encodedDots) = .ok joined ∧
      address.asDirectory.pathText = "/site/".toList ∧ joined.pathText = "/secret".toList ∧
      ¬address.asDirectory.pathText <+: joined.pathText := by
  let host : Url.Authority := ⟨[], none, "127.0.0.1".toList, some 0⟩
  refine ⟨by decide, by decide, ⟨"http".toList, host, .segments ["site".toList, []], none, none⟩,
    ⟨"http".toList, host, .segments ["secret".toList], none, none⟩, ?_, ?_, ?_, ?_, ?_, ?_⟩
  all_goals decide +kernel

theorem confined_laterDots :
    Asset.isPath "/assets/icons/%2E%2e/logo.svg".toList ∧
    isInside (Asset.relative "/assets/icons/%2E%2e/logo.svg".toList) ∧
    ∀ t address joined, Url.ofText? t = .ok address → address.isWeb →
      address.asDirectory.join (Asset.relative "/assets/icons/%2E%2e/logo.svg".toList) =
        .ok joined →
      address.asDirectory.pathText <+: joined.pathText := by
  have marked : Asset.isPath "/assets/icons/%2E%2e/logo.svg".toList := by decide
  have inside : isInside (Asset.relative "/assets/icons/%2E%2e/logo.svg".toList) := by decide
  exact ⟨marked, inside, (confined_iff_staysBelow marked inside).2.1.mpr (by decide +kernel)⟩

end Source
end Pagecraft
