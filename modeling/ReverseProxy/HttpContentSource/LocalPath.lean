import ReverseProxy.H1Utils.Http1ResponseBuilder
import ReverseProxy.OAuth.SigningKeyStorage

/-!
# Serving a folder with files

Three routines put a request path behind the configured folder: the HTTP/1
pipeline, the local source of the HTTP/2 pipeline, and the source that asks for
a file over a gateway.  None of them looks at the segments of the path.
-/

namespace ReverseProxy

open Library

/-- The path of `segment` below `folder`, with a separator between them. -/
def joinSegment (folder segment : Str) : Str :=
  if folder.getLast? = some '/' then
    if segment.head? = some '/' then folder ++ segment.drop 1
    else folder ++ segment
  else if segment.head? = some '/' then folder ++ segment
  else folder ++ '/' :: segment

/-- `rust_extensions::file_utils::FilePath`, by its text: an appended segment
stands behind the path with a separator between them. -/
class FilePaths where
  fromStr : Str → Str
  appendSegment : Str → Str → Str
  components_appendSegment : ∀ path segment,
    components (appendSegment path segment) = components (joinSegment path segment)

/-- A text with the home directory in place of every `~`. -/
def expandHome (home text : Str) : Str :=
  text.flatMap fun symbol => if symbol = '~' then home else [symbol]

/-- `FilePath::from_str` looks for the home directory in a text that begins with
a `~`. -/
class HomePaths extends FilePaths where
  home : Str
  fromStr_eq : ∀ path, fromStr path =
    if path.head? = some '~' then expandHome home path else path

/-- `my_http_server::WebContentType`, by its text. -/
class WebContentType where
  detectByExtension : Str → Option Str

/-- The page for a missing file; its text does not matter to any decision. -/
class ErrorTemplates where
  notFound : Bytes

export WebContentType (detectByExtension)

/-- Paths for statements that are evaluated on a fixed input. -/
@[reducible] def joinedPaths : FilePaths :=
  { fromStr := fun path => path
    appendSegment := joinSegment
    components_appendSegment := fun _ _ => rfl }

/-! ## HTTP/1 -/

/-- The file `serve_file` looks for below its folder. -/
def servedName (path : Str) (defaultFile : Option Str) : Option Str :=
  if path = ['/'] then defaultFile else some path

structure LocalPathContent where
  filesPath : Str
  defaultFile : Option Str
  requests : Nat → Option (Str × Str)

section

variable [FilePaths]

/-- The path `serve_file` reads, if it reads one. -/
def servedPath (filesPath path : Str) (defaultFile : Option Str) :
    Option Str :=
  (servedName path defaultFile).map (FilePaths.appendSegment filesPath)

def serveFile [WebContentType] [ErrorTemplates] (disk : Disk)
    (filesPath path : Str) (defaultFile : Option Str) : Bytes :=
  match servedPath filesPath path defaultFile with
  | none => ErrorTemplates.notFound
  | some filePath =>
    match disk (components filePath) with
    | none => ErrorTemplates.notFound
    | some content =>
      buildWithBody 200 ((detectByExtension filePath).map fun contentType =>
        ("content-type".toList, contentType)).toList content

namespace LocalPathContent

def new (filesPath : Str) (defaultFile : Option Str) : LocalPathContent :=
  { filesPath := FilePaths.fromStr filesPath
    defaultFile
    requests := fun _ => none }

def sendHeaders [SliceOfU8Ext] (content : LocalPathContent) (requestId : Nat)
    (firstLine : Bytes) : Outcome LocalPathContent := do
  let verbAndPath ← getVerbAndPath firstLine
  return { content with
    requests := Function.update content.requests requestId (some verbAndPath) }

/-- The path `get_content` reads, if it reads one. -/
def openedPath (content : LocalPathContent) (requestId : Nat) : Option Str :=
  match content.requests requestId with
  | none => none
  | some (verb, path) =>
    if verb ≠ "GET".toList then none
    else servedPath content.filesPath path content.defaultFile

def getContent [WebContentType] [ErrorTemplates] (disk : Disk)
    (content : LocalPathContent) (requestId : Nat) :
    LocalPathContent × Bytes :=
  ({ content with
      requests := Function.update content.requests requestId none },
    match content.requests requestId with
    | none => ErrorTemplates.notFound
    | some (verb, path) =>
      if verb ≠ "GET".toList then ErrorTemplates.notFound
      else serveFile disk content.filesPath path content.defaultFile)

end LocalPathContent

end

/-! ## The local source of the HTTP/2 pipeline -/

/-- `LocalFilePath::get_value`: `HOME` has to be set for a `~`. -/
def LocalFilePath.getValue (home : Option Str) (location : Str) :
    Outcome Str :=
  if location.head? ≠ some '~' then .ret location
  else
    match home with
    | none => .panic
    | some home => .ret (expandHome home location)

/-- `Uri::path` of the `http` crate: empty for an authority alone, `*`, or a
path from the root. -/
structure UriPath where
  text : Str
  form : text = [] ∨ text = ['*'] ∨ text.head? = some '/'

structure LocalPathContentSrc where
  filePath : Str
  defaultFile : Option Str
deriving DecidableEq, Repr

structure RequestExecutorResult where
  statusCode : Nat
  contentType : Option Str
  body : Bytes
deriving DecidableEq, Repr

namespace LocalPathContentSrc

/-- A separator at the end of the folder is dropped; an empty folder
panics. -/
def new (home : Option Str) (location : Str) (defaultFile : Option Str) :
    Outcome LocalPathContentSrc := do
  let filePath ← LocalFilePath.getValue home location
  match filePath.getLast? with
  | none => .panic
  | some symbol =>
    return {
      filePath := if symbol = '/' then filePath.dropLast else filePath
      defaultFile }

/-- The path of the `FileRequestExecutor`. -/
def executeRequest (source : LocalPathContentSrc) (path : Str) : Str :=
  if path = ['/'] then
    match source.defaultFile with
    | some defaultFile => source.filePath ++ '/' :: defaultFile
    | none => source.filePath ++ path
  else source.filePath ++ path

end LocalPathContentSrc

/-- `FileRequestExecutor::execute_request`. -/
def FileRequestExecutor.executeRequest [WebContentType] (disk : Disk)
    (filePath : Str) : RequestExecutorResult :=
  match disk (components filePath) with
  | some content =>
    { statusCode := 200
      contentType := detectByExtension filePath
      body := content }
  | none =>
    { statusCode := 404
      contentType := none
      body := ascii "Not found" }

/-! ## Files over a gateway -/

/-- What is put behind the folder, if anything. -/
def mergedName (reqPath : Str) (defaultFile : Option Str) : Option Str :=
  if reqPath = [] then defaultFile
  else if reqPath = ['/'] then defaultFile
  else some reqPath

def mergePathAndFile (filesPath reqPath : Str) (defaultFile : Option Str) :
    Str :=
  match mergedName reqPath defaultFile with
  | none => filesPath
  | some reqPath => joinSegment filesPath reqPath

end ReverseProxy
