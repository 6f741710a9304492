import Gatehouse.Http.Request
import Gatehouse.Http.Response
import Gatehouse.Routing.FileRange
import Gatehouse.Routing.ReverseProxy
import Gatehouse.Time.Reading

/-!
# Serving files

A directory is served under a mount. The path behind the mount names a file below the
directory; it must not leave the directory. A directory is answered by its index. A
client may ask for a file on the condition that it has changed since some time, or that
it has not.
-/

namespace Gatehouse

/-- What a path of the file system leads to. -/
inductive FileEntry
  | file (content : Bytes) (modified : Time)
  | directory
  deriving DecidableEq, Repr

/-- The files that can be read, by their paths without a slash at the end. -/
abbrev FileStore := String → Option FileEntry

/-- A directory that is served. -/
structure FileServer where
  mount : String
  root : String
  deriving DecidableEq, Repr

namespace FileServer

/-- The types of files by their extensions. -/
def mediaTypes : List (String × String) :=
  [("txt", "text/plain"), ("text", "text/plain"), ("log", "text/plain"),
    ("html", "text/html"), ("htm", "text/html"), ("css", "text/css"), ("csv", "text/csv"),
    ("md", "text/markdown"), ("js", "text/javascript"), ("mjs", "text/javascript"),
    ("json", "application/json"), ("map", "application/json"), ("xml", "text/xml"),
    ("pdf", "application/pdf"), ("zip", "application/zip"), ("gz", "application/gzip"),
    ("tar", "application/x-tar"), ("wasm", "application/wasm"), ("png", "image/png"),
    ("jpg", "image/jpeg"), ("jpeg", "image/jpeg"), ("gif", "image/gif"),
    ("svg", "image/svg+xml"), ("webp", "image/webp"), ("ico", "image/x-icon"),
    ("bmp", "image/bmp"), ("mp3", "audio/mpeg"), ("mp4", "video/mp4"),
    ("woff", "font/woff"), ("woff2", "font/woff2"), ("ttf", "font/ttf")]

/-- The type of a file without a known extension. -/
def unknownType : String := "application/octet-stream"

/-- The type of a file by its path. A name that begins with its only dot has no
extension. -/
def mediaType (path : String) : String :=
  let name := (Text.splitEvery '/' path.toList).getLastD []
  match Text.splitLast? '.' name with
  | some (_ :: _, extension) =>
      (mediaTypes.lookup (Text.lower (String.ofList extension))).getD unknownType
  | _ => unknownType

/-- What the mount leaves of a target, beginning with a single slash. -/
def strip? (server : FileServer) (target : RequestTarget) : Option RequestTarget :=
  let rest := (Text.stripStart? server.mount target.path).getD ""
  let path := '/' :: rest.toList.dropWhile (· == '/')
  let query := match target.query? with
    | some query => "?" ++ query
    | none => ""
  RequestTarget.ofText? (String.ofList path ++ query)

/-- The names on the way from the root to the file that a path denotes, unless the path
leaves the root. -/
def names? (path : String) : Option (List String) := do
  let bare := path.toList.dropWhile (· == '/')
  let decoded ← Text.Utf8.decode? (Percent.decode (Text.Utf8.encode (String.ofList bare)))
  let names := Text.pieces '/' decoded
  if decoded.toList.head? = some '/' || names.contains ".." then none
  else some (names.filter fun name => name != "" && name != ".")

/-- The path of the file system for names below the root. -/
def filePath (server : FileServer) (names : List String) : String :=
  String.ofList (Text.trimLast (· == '/') server.root.toList) ++
    String.join (names.map ("/" ++ ·))

/-- The response with a whole file. -/
def wholeFile (path : String) (content : Bytes) (modified : Time) : Response :=
  let described :=
    ((Response.ofStatus 200).insertText "content-type" (mediaType path)).insertText
      "accept-ranges" "bytes"
  { described.insertText "last-modified" (Date.ofTime modified).text with
    body := content }

/-- The response with parts of a file. A single part is answered; of several, none is. -/
def partOfFile (whole : Response) (ranges : String) : Response :=
  let size := Text.Decimal.natural whole.body.length
  let refusal :=
    { whole with status := 416, body := [] }.insertText "content-range"
      ("bytes */" ++ size)
  match (FileRange.ofText? ranges).bind (FileRange.resolve? whole.body.length) with
  | some [(first, last)] =>
      let part := (whole.body.drop first).take (last + 1 - first)
      { whole with status := 206, body := part }.insertText "content-range"
        ("bytes " ++ Text.Decimal.natural first ++ "-" ++
          Text.Decimal.natural last ++ "/" ++ size)
  | some _ =>
      { refusal with body := Text.Utf8.encode "Cannot serve multipart range requests" }
  | none => refusal

/-- The time that a field of a request shows. -/
def timeIn? (headers : Headers) (name : String) : Option Time := do
  let value ← headers.get? name
  let text ← Text.Utf8.decode? value
  Date.read? text

/-- The response to a request with a condition that a file does not meet. -/
def unmet? (headers : Headers) (modified : Time) : Option Response :=
  if (timeIn? headers "if-unmodified-since").any (· < modified) then
    some (Response.ofStatus 412)
  else if (timeIn? headers "if-modified-since").any (modified ≤ ·) then
    some (Response.ofStatus 304)
  else none

/-- The response with a file. -/
def fileResponse
    (headers : Headers)
    (path : String)
    (content : Bytes)
    (modified : Time) : Response :=
  match unmet? headers modified with
  | some response => response
  | none =>
      let whole := wholeFile path content modified
      match headers.firstText? "range" with
      | some ranges => partOfFile whole ranges
      | none => whole

/-- The response to a request for the names below the root. -/
def respond
    (server : FileServer)
    (store : FileStore)
    (headers : Headers)
    (target : RequestTarget)
    (names : List String) : Response :=
  let path := server.filePath names
  match store path with
  | some (.file content modified) => fileResponse headers path content modified
  | none => Response.ofStatus 404
  | some .directory =>
      if target.path.toList.getLast? = some '/' then
        match store (path ++ "/index.html") with
        | some (.file content modified) =>
            fileResponse headers "index.html" content modified
        | _ => Response.ofStatus 404
      else
        let query := match target.query? with
          | some query => "?" ++ query
          | none => ""
        Response.redirect 307 (target.path ++ "/" ++ query)

/-- Serve a request. -/
def serve (server : FileServer) (store : FileStore) (request : Request) : Delivery :=
  match server.strip? request.target with
  | none => ⟨Response.ofStatus 400, none, none⟩
  | some target =>
      let response :=
        if request.isRetrieval then
          match names? target.path with
          | some names => server.respond store request.headers target names
          | none => Response.ofStatus 404
        else (Response.ofStatus 405).insertText "allow" "GET,HEAD"
      ⟨response.insertIfValue backendHeader server.root, none, some server.mount⟩

end FileServer
end Gatehouse
