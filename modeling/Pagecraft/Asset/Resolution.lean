import Pagecraft.Asset.Library
import Pagecraft.Content.Node

/-! What a content tree asks of a library: which leaves it resolves, which asset paths it leaves
to be fetched, and what becomes of those that nobody has. -/
namespace Pagecraft.Asset

/-- Replaces each text leaf that has an entry in a table. Without entries no leaf is looked at. -/
def resolveBy (table : Keyed Text) (tree : Node) : Node :=
  if table.isEmpty then tree else tree.mapLeaves fun leaf => Keyed.get? leaf table

/-- Replaces each text leaf that is the path of a record by the record's data URI. -/
def Library.resolve (library : Library) (tree : Node) : Node := resolveBy library.inlineTable tree

/-- The asset paths among the leaves that have no record, each at its first place. -/
def Library.missingPaths (library : Library) (tree : Node) : List Text :=
  (tree.leaves.filter fun leaf => isPath leaf && !library.contains leaf).eraseDups

def relativize (tree : Node) : Node :=
  tree.mapLeaves fun leaf => if isPath leaf then some (relative leaf) else none

end Pagecraft.Asset
