import Pagecraft.Text.Blank
import Pagecraft.Text.Utf8
import Pagecraft.Text.Hex
import Pagecraft.Number.Shortest
import Pagecraft.Json.Printer
import Pagecraft.Json.Reader
import Pagecraft.Text.Keyed
import Pagecraft.Content.Path
import Pagecraft.Json.Fields
import Pagecraft.Template.Render
import Pagecraft.Template.Slice
import Pagecraft.Text.Base64
import Pagecraft.Digest.Sha256
import Pagecraft.Digest.Crc32
import Pagecraft.Asset.Resolution
import Pagecraft.Bundle.Name
import Pagecraft.Bundle.Package
import Pagecraft.Bundle.Archive
import Pagecraft.Review.Rule
import Pagecraft.Text.Uuid
import Pagecraft.Page.Saved
import Pagecraft.Page.Settings
import Pagecraft.Disk.Files
import Pagecraft.Web.Percent
import Pagecraft.Web.Domain
import Pagecraft.Web.Address
import Pagecraft.Web.Join
import Pagecraft.Source.Root
import Pagecraft.Export.Page
import Pagecraft.Command.Run
import Pagecraft.Main
import Pagecraft.Proofs.Content.Leaves
import Pagecraft.Proofs.Json.Numeral
import Pagecraft.Proofs.Template.Scan
import Pagecraft.Proofs.Template.Syntax
import Pagecraft.Proofs.Template.Language
import Pagecraft.Proofs.Template.Values
import Pagecraft.Proofs.Asset.Library
import Pagecraft.Proofs.Asset.Resolution
import Pagecraft.Proofs.Bundle.Files
import Pagecraft.Proofs.Source.Fetching
import Pagecraft.Proofs.Bundle.Document
import Pagecraft.Proofs.Export.Gathering
import Pagecraft.Proofs.Export.Accounting
import Pagecraft.Proofs.Export.Documents
import Pagecraft.Proofs.Text.Cut
import Pagecraft.Proofs.Text.Base64
import Pagecraft.Proofs.Asset.DataUri
import Pagecraft.Proofs.Text.Keyed
import Pagecraft.Proofs.Text.Utf8
import Pagecraft.Proofs.Bundle.Layout
import Pagecraft.Proofs.Bundle.Archive
import Pagecraft.Proofs.Bundle.Outcome
import Pagecraft.Proofs.Export.Degradation
import Pagecraft.Proofs.Web.Relative
import Pagecraft.Proofs.Web.Walk
import Pagecraft.Proofs.Text.Lower
import Pagecraft.Proofs.Source.Confinement
import Pagecraft.Proofs.Bundle.Overlap
import Pagecraft.Proofs.Export.Placement
import Pagecraft.Proofs.Export.Supply
import Pagecraft.Proofs.Disk.FileTree
import Pagecraft.Proofs.Disk.Writing
import Pagecraft.Proofs.Command.Reading
import Pagecraft.Proofs.Command.Effects
import Pagecraft.Proofs.Template.Split
import Pagecraft.Proofs.Json.Values
import Pagecraft.Proofs.Content.Sorted
import Pagecraft.Proofs.Content.Pruning
import Pagecraft.Proofs.Content.Traversal
import Pagecraft.Proofs.Content.Walks
import Pagecraft.Proofs.Template.Blocks
import Pagecraft.Proofs.Template.Frame
import Pagecraft.Proofs.Template.Scope
import Pagecraft.Proofs.Json.Tokens
import Pagecraft.Proofs.Json.Canonical
import Pagecraft.Proofs.Calendar.Instant
import Pagecraft.Proofs.Json.Fields
import Pagecraft.Proofs.Page.Saved
import Pagecraft.Proofs.Text.Sextets
import Pagecraft.Proofs.Asset.Discovery
import Pagecraft.Proofs.Review.References
import Pagecraft.Proofs.Review.Demands
import Pagecraft.Proofs.Source.Directory
import Pagecraft.Proofs.Asset.History
import Pagecraft.Source.Crew
import Pagecraft.Proofs.Source.Crew
import Pagecraft.Proofs.Disk.Walk
import Pagecraft.Proofs.Asset.Uploads
import Pagecraft.Proofs.Page.Recognition
import Pagecraft.Proofs.Content.Slice
import Pagecraft.Proofs.Template.Slice
import Pagecraft.Proofs.Template.Cursor
import Pagecraft.Proofs.Template.Stages
