import Pagecraft.Text.Basic

/-! Media types, guessed from the extension of a file name. -/
namespace Pagecraft.MediaType

def table : List (Text × Text) :=
  [("svg", "image/svg+xml"), ("png", "image/png"), ("jpg", "image/jpeg"), ("jpeg", "image/jpeg"),
    ("webp", "image/webp"), ("gif", "image/gif"), ("ico", "image/x-icon"), ("avif", "image/avif"),
    ("css", "text/css"), ("js", "text/javascript"), ("json", "application/json"),
    ("woff", "font/woff"), ("woff2", "font/woff2"), ("html", "text/html"), ("htm", "text/html"),
    ("txt", "text/plain")].map fun (extension, mediaType) => (extension.toList, mediaType.toList)

def unknown : Text := "application/octet-stream".toList

def extension? (path : Text) : Option Text :=
  ((path.lastPiece '/').cutLast? '.').map fun (_, extension) => Text.lower extension

def ofPath (path : Text) : Text :=
  ((extension? path).bind fun extension => List.lookup extension table).getD unknown

end Pagecraft.MediaType
