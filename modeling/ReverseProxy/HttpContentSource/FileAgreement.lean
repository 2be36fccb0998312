import ReverseProxy.H1ProxyServer.RequestLine
import ReverseProxy.HttpContentSource.ServedFiles

/-!
# The same file over HTTP/1 and HTTP/2

The HTTP/1 pipeline names the file by the whole target of the request line,
the hyper pipeline by the path of the URI, and only the first looks at the
method.  Both put the name behind the same folder.
-/

namespace ReverseProxy

open Library FilePaths Outcome List

/-! ## Names below a folder -/

/-- The components a text adds to the folder it is put behind. -/
def nameComponents (name : Str) : Path := (name.splitOn '/').filterMap component

theorem nameComponents_slash (name : Str) : nameComponents ('/' :: name) = nameComponents name := by
  unfold nameComponents
  rw [← nil_append ('/' :: name), splitOn_append_cons_self]
  rfl

theorem components_below {folder front : Str} (rest : Str)
    (same : components (front ++ ['/']) = components folder) :
    components (front ++ '/' :: rest) = components folder ++ nameComponents rest := by
  rw [components_slash, same]
  rfl

theorem components_joinSegment {folder : Str} (nonempty : folder ≠ []) (name : Str) :
    components (joinSegment folder name) = components folder ++ nameComponents name := by
  obtain ⟨front, rest, joined, nameIs, folderIs⟩ := @joinSegment_eq folder name
  have same : components (front ++ ['/']) = components folder := by
    rcases folderIs with trailing | plain
    · rw [trailing]
    · rw [← plain, components_trailing nonempty]
  rw [joined, components_below rest same]
  rcases nameIs with rfl | rfl
  · rfl
  · rw [nameComponents_slash]

theorem mark_mem_nameComponents_iff {text : Str} :
    (∃ name, .normal name ∈ nameComponents text ∧ '?' ∈ name) ↔ '?' ∈ text := by
  constructor
  · rintro ⟨name, isName, mark⟩
    obtain ⟨segment, isSegment, named⟩ := mem_filterMap.mp isName
    have same : segment = name := by
      unfold component at named
      split at named
      · cases named
      split at named
      · cases named
      · cases named
        rfl
    subst same
    exact (infix_of_mem_splitOnP isSegment).mem mark
  · intro mark
    obtain ⟨segment, isSegment, inside⟩ := exists_mem_splitOnP (· == '/') mark (by decide)
    refine ⟨segment, mem_filterMap.mpr ⟨segment, isSegment, ?_⟩, inside⟩
    unfold component
    rw [if_neg, if_neg]
    · rintro rfl
      exact absurd inside (by decide)
    · intro skipped
      rcases Bool.or_eq_true_iff.mp skipped with empty | dot
      · rw [of_decide_eq_true empty] at inside
        cases inside
      · rw [of_decide_eq_true dot] at inside
        exact absurd inside (by decide)

/-! ## The two pipelines -/

/-- A target in origin form, on a line that is one token between blanks. -/
structure RequestTarget where
  path : Str
  query : Option Str
  rooted : path.head? = some '/'
  noMark : '?' ∉ path
  noFragment : '#' ∉ path
  solid : ∀ symbol ∈ path ++ (query.map ('?' :: ·)).getD [], isWhitespace symbol = false

namespace RequestTarget

variable (target : RequestTarget)

def text : Str := target.path ++ (target.query.map ('?' :: ·)).getD []

theorem exists_path : ∃ rest, target.path = '/' :: rest :=
  head?_eq_some_iff.mp target.rooted

theorem oneToken : OneToken target.text := by
  obtain ⟨rest, path⟩ := target.exists_path
  refine ⟨?_, target.solid⟩
  unfold text
  rw [path]
  exact cons_ne_nil _ _

/-- `Uri::path`. -/
def uriPath : UriPath :=
  { text := target.path
    form := Or.inr (Or.inr target.rooted) }

def requestLine (method : Str) (target : RequestTarget) : Bytes :=
  asBytes method ++ 32 :: (asBytes target.text ++ 32 :: ascii "HTTP/1.1")

theorem getVerbAndPath_requestLine [SliceOfU8Ext] {method : Str}
    (isMethod : OneToken method) (target : RequestTarget) :
    getVerbAndPath (target.requestLine method) = .ret (method, target.text) := by
  have parts : spacedParts (target.requestLine method) =
      some (asBytes method, asBytes target.text, ascii "HTTP/1.1") :=
    spacedParts_eq_some_iff.mpr ⟨rfl, isMethod.space_not_mem, target.oneToken.space_not_mem⟩
  rw [getVerbAndPath_eq, parts]
  simp [unwrapUtf8, fromUtf8_asBytes]

end RequestTarget

/-- `generate_layout`. -/
def generateLayout (appVersion : String) (statusCode : Nat) (text : String)
    (secondLine : Option String) : Bytes :=
  let secondLine := match secondLine with
    | some secondLine => "<h4>" ++ secondLine ++ "</h4>"
    | none => ""
  buildWithBody statusCode [] (asBytes (
    "\n        <div style=\"text-align: center;\">\n        <h2>" ++ text ++
    "</h2>\n      " ++ secondLine ++ "\n        <p>" ++ toString statusCode ++
    "</p>\n        <hr/>\n        <div>MyReverseProxy " ++ appVersion ++
    "</div>\n        </div>\n        ").toList)

@[reducible] def errorTemplates (appVersion : String) : ErrorTemplates :=
  { notFound := generateLayout appVersion 404 "Resource not found" none }

section

variable [FilePaths]

namespace LocalPathContent

variable [SliceOfU8Ext] (filesPath : Str) (defaultFile : Option Str)
  (method : Str) (target : RequestTarget)

/-- The path the HTTP/1 reader opens, if it opens one. -/
def opens : Outcome (Option Str) := do
  let sent ← (new filesPath defaultFile).sendHeaders 0 (target.requestLine method)
  return sent.openedPath 0

/-- What the HTTP/1 reader writes. -/
def answers [WebContentType] [ErrorTemplates] (disk : Disk) :
    Outcome Bytes := do
  let sent ← (new filesPath defaultFile).sendHeaders 0 (target.requestLine method)
  return (sent.getContent disk 0).2

variable {method}

theorem opens_eq (isMethod : OneToken method) :
    opens filesPath defaultFile method target =
      .ret (if method ≠ "GET".toList then none
        else servedPath (fromStr filesPath) target.text defaultFile) := by
  have line := target.getVerbAndPath_requestLine isMethod
  unfold opens sendHeaders openedPath
  simp [line, new]

theorem answers_of_other [WebContentType] [ErrorTemplates] (disk : Disk)
    (isMethod : OneToken method) (other : method ≠ "GET".toList) :
    answers filesPath defaultFile method target disk =
      .ret ErrorTemplates.notFound := by
  have line := target.getVerbAndPath_requestLine isMethod
  unfold answers sendHeaders getContent
  simp only [line, bind_ret, pure_eq, Function.update_self, if_pos other]

end LocalPathContent

end

namespace LocalPathContentSrc

variable (home : Option Str) (filesPath : Str) (defaultFile : Option Str) (target : RequestTarget)

/-- The path the hyper pipeline opens, whatever the method. -/
def opens : Outcome Str := do
  let source ← new home filesPath defaultFile
  return source.executeRequest target.uriPath.text

def execute [WebContentType] (disk : Disk) (source : LocalPathContentSrc)
    (uri : UriPath) : RequestExecutorResult :=
  FileRequestExecutor.executeRequest disk (source.executeRequest uri.text)

/-- What the hyper pipeline answers. -/
def answers [WebContentType] (disk : Disk) : Outcome RequestExecutorResult := do
  let source ← new home filesPath defaultFile
  return source.execute disk target.uriPath

end LocalPathContentSrc

/-- What a path selects below the folder: nothing, or the default file, for
the root. -/
def selectedName (path : Str) (defaultFile : Option Str) : Path :=
  ((servedName path defaultFile).map nameComponents).getD []

namespace LocalPathContentSrc

variable {home : Option Str} {filesPath folder : Str}

theorem new_returns (defaultFile : Option Str)
    (value : LocalFilePath.getValue home filesPath = .ret folder)
    (nonempty : folder ≠ []) :
    ∃ source, new home filesPath defaultFile = .ret source := by
  unfold new
  rw [value, bind_ret, getLast?_eq_some_getLast nonempty]
  exact ⟨_, rfl⟩

theorem components_executeRequest {source : LocalPathContentSrc} (nonempty : folder ≠ [])
    (folderIs : folder = source.filePath ++ ['/'] ∨
      folder = source.filePath) (target : RequestTarget) :
    components (source.executeRequest target.path) =
      components folder ++ selectedName target.path source.defaultFile := by
  have same : components (source.filePath ++ ['/']) = components folder := by
    rcases folderIs with trailing | plain
    · rw [trailing]
    · rw [← plain, components_trailing nonempty]
  obtain ⟨rest, path⟩ := target.exists_path
  unfold executeRequest selectedName servedName
  rw [path]
  by_cases root : '/' :: rest = ['/']
  · rw [if_pos root, if_pos root]
    cases source.defaultFile with
    | none =>
      rw [root, components_below [] same]
      rfl
    | some defaultFile =>
      rw [components_below defaultFile same]
      rfl
  · rw [if_neg root, if_neg root, components_below rest same]
    rw [Option.map_some, Option.getD_some, nameComponents_slash]

theorem opens_iff {defaultFile : Option Str} {target : RequestTarget}
    {path : Str} (opened : opens home filesPath defaultFile target = .ret path) :
    ∃ folder, LocalFilePath.getValue home filesPath = .ret folder ∧ folder ≠ [] ∧ components path =
        components folder ++ selectedName target.path defaultFile := by
  obtain ⟨source, made, returned⟩ := bind_eq_ret_iff.mp opened
  cases returned
  obtain ⟨folder, value, nonempty, sameDefault, folderIs⟩ := new_eq_ret made
  refine ⟨folder, value, nonempty, ?_⟩
  rw [← sameDefault]
  exact components_executeRequest nonempty folderIs target

theorem answers_status [WebContentType] {disk : Disk}
    {defaultFile : Option Str} {target : RequestTarget}
    {result : RequestExecutorResult}
    (answered : answers home filesPath defaultFile target disk = .ret result) :
    ∃ folder, LocalFilePath.getValue home filesPath = .ret folder ∧ folder ≠ [] ∧
      result.statusCode =
        if (disk (components folder ++
          selectedName target.path defaultFile)).isSome then 200 else 404 := by
  obtain ⟨source, made, returned⟩ := bind_eq_ret_iff.mp answered
  cases returned
  obtain ⟨folder, value, nonempty, sameDefault, folderIs⟩ := new_eq_ret made
  refine ⟨folder, value, nonempty, ?_⟩
  rw [← sameDefault, ← components_executeRequest nonempty folderIs target]
  unfold execute FileRequestExecutor.executeRequest RequestTarget.uriPath
  cases disk (components (source.executeRequest target.path)) with
  | none => rfl
  | some content => rfl

end LocalPathContentSrc

/-! ## Agreement -/

/-- The file a read of `path` opens.  The folder itself is no file. -/
def fileIn (folder path : Str) : Option Path :=
  if components path = components folder then none
  else some (components path)

section

variable [FilePaths] [SliceOfU8Ext]

def OpenSameFile (home : Option Str) (filesPath : Str)
    (defaultFile : Option Str) (target : RequestTarget) : Prop :=
  ∃ folder opened path, LocalFilePath.getValue home filesPath = .ret folder ∧
    LocalPathContent.opens filesPath defaultFile "GET".toList target = .ret opened ∧
    LocalPathContentSrc.opens home filesPath defaultFile target = .ret path ∧
    opened.bind (fileIn folder) = fileIn folder path

/-- Both answer with the same status. -/
def AnswerAlike [WebContentType] (appVersion : String) (disk : Disk)
    (home : Option Str) (filesPath : Str) (defaultFile : Option Str)
    (method : Str) (target : RequestTarget) : Prop :=
  letI := errorTemplates appVersion
  ∃ bytes result, LocalPathContent.answers filesPath defaultFile method target disk = .ret bytes ∧
    LocalPathContentSrc.answers home filesPath defaultFile target disk = .ret result ∧
    ∃ headers body, bytes = buildWithBody result.statusCode headers body

/-- The default file happens to be named as the query. -/
def NamedByQuery (defaultFile : Option Str) (target : RequestTarget) : Prop :=
  ∃ file query, target.path = ['/'] ∧ defaultFile = some file ∧ target.query = some query ∧
    nameComponents file = nameComponents ('?' :: query)

end

/-! ### Opening -/

theorem fileIn_below {folder path : Str} {names : Path}
    (below : components path = components folder ++ names) :
    fileIn folder path =
      if names = [] then none else some (components folder ++ names) := by
  unfold fileIn
  rw [below]
  by_cases empty : names = []
  · simp [empty]
  · simp [empty]

theorem pick_inj {folder : Path} {left right : Path} :
    (if left = [] then none else some (folder ++ left)) =
        (if right = [] then none else some (folder ++ right)) ↔
      left = right := by
  by_cases leftEmpty : left = []
  · by_cases rightEmpty : right = []
    · simp [leftEmpty, rightEmpty]
    · simp [leftEmpty, rightEmpty, eq_comm]
  · by_cases rightEmpty : right = []
    · simp [leftEmpty, rightEmpty]
    · simp [leftEmpty, rightEmpty]

theorem components_ne_nil {folder : Str} (nonempty : folder ≠ []) : components folder ≠ [] := by
  obtain ⟨symbol, text, rfl⟩ := exists_cons_of_ne_nil nonempty
  obtain ⟨first, rest, split⟩ := exists_cons_of_ne_nil (splitOn_ne_nil '/' text)
  by_cases slash : symbol = '/'
  · have parts : ('/' :: text).splitOn '/' = [] :: first :: rest := by
      rw [← nil_append ('/' :: text), splitOn_append_cons_self,
        split]
      rfl
    simp [components, slash, parts]
  have parts : (symbol :: text).splitOn '/' = (symbol :: first) :: rest := by
    rw [splitOn, splitOnP_cons_eq_if_modifyHead, if_neg (by simpa using slash)]
    exact congrArg (modifyHead (symbol :: ·)) split
  by_cases dot : symbol :: first = ['.']
  · simp [components, parts, slash, dot]
  have counts : component (symbol :: first) ≠ none := by
    unfold component
    rw [if_neg (by simpa using dot)]
    split
    · exact Option.some_ne_none _
    · exact Option.some_ne_none _
  simp [components, parts, slash, dot, counts]

/-- A query is part of the name unless it is also the name of the default
file. -/
theorem selectedName_query_iff (defaultFile : Option Str) {target : RequestTarget} {query : Str}
    (asked : target.query = some query) :
    selectedName target.text defaultFile = selectedName target.path defaultFile ↔
      NamedByQuery defaultFile target := by
  have text : target.text = target.path ++ '?' :: query := by
    simp [RequestTarget.text, asked]
  have notRoot : target.text ≠ ['/'] := by
    intro root
    have mark : '?' ∈ target.text := by simp [text]
    rw [root] at mark
    exact absurd mark (by decide)
  have marked : ∃ name, .normal name ∈ nameComponents target.text ∧
      '?' ∈ name := mark_mem_nameComponents_iff.mpr (by simp [text])
  have selectsText : selectedName target.text defaultFile =
      nameComponents target.text := by
    simp [selectedName, servedName, notRoot]
  rw [selectsText]
  by_cases root : target.path = ['/']
  · have selectsRoot : selectedName target.path defaultFile =
        (defaultFile.map nameComponents).getD [] := by
      simp [selectedName, servedName, root]
    have name : nameComponents target.text = nameComponents ('?' :: query) := by
      rw [text, root, singleton_append, nameComponents_slash]
    rw [selectsRoot]
    cases defaultFile with
    | none =>
      refine iff_of_false ?_ ?_
      · intro empty
        obtain ⟨name, isName, _⟩ := marked
        rw [empty] at isName
        cases isName
      · rintro ⟨file, _, _, ⟨⟩, _⟩
    | some file =>
      rw [name]
      constructor
      · intro same
        exact ⟨file, query, root, rfl, asked, same.symm⟩
      · rintro ⟨_, other, _, ⟨⟩, sameQuery, same⟩
        cases asked.symm.trans sameQuery
        exact same.symm
  · have selectsPath : selectedName target.path defaultFile =
        nameComponents target.path := by
      simp [selectedName, servedName, root]
    rw [selectsPath]
    refine iff_of_false ?_ ?_
    · intro same
      rw [same] at marked
      exact target.noMark (mark_mem_nameComponents_iff.mp marked)
    · rintro ⟨_, _, isRoot, _⟩
      exact root isRoot

theorem selectedName_eq_iff (defaultFile : Option Str) (target : RequestTarget) :
    selectedName target.text defaultFile = selectedName target.path defaultFile ↔
      target.query = none ∨ NamedByQuery defaultFile target := by
  cases asked : target.query with
  | none =>
    have same : target.text = target.path := by
      simp [RequestTarget.text, asked]
    simp [same]
  | some query =>
    rw [selectedName_query_iff defaultFile asked]
    simp

theorem buildWithBody_status_ne {headers otherHeaders : List (Str × Str)} {body otherBody : Bytes} :
    buildWithBody 404 headers body ≠
      buildWithBody 200 otherHeaders otherBody := by
  intro same
  have octet := congrArg (fun bytes => bytes[9]?) same
  simp [buildWithBody, responseFirstLine, ascii] at octet

section

variable [FilePaths] {home : Option Str} {filesPath : Str}

theorem fileIn_servedPath {folder : Str} (nonempty : folder ≠ [])
    (expands : components (fromStr filesPath) = components folder)
    (path : Str) (defaultFile : Option Str) :
    (servedPath (fromStr filesPath) path defaultFile).bind (fileIn folder) =
      if selectedName path defaultFile = [] then none
      else some (components folder ++ selectedName path defaultFile) := by
  unfold servedPath selectedName
  cases servedName path defaultFile with
  | none => rfl
  | some name =>
    have base : fromStr filesPath ≠ [] := by
      intro empty
      rw [empty] at expands
      exact components_ne_nil nonempty expands.symm
    rw [Option.map_some, Option.bind_some, Option.map_some, Option.getD_some]
    apply fileIn_below
    rw [components_appendSegment, components_joinSegment base, expands]

omit [FilePaths] in
theorem oneToken_get : OneToken "GET".toList := ⟨by decide, all_iff_forall_prop.mp (by decide)⟩

theorem openSameFile_iff [SliceOfU8Ext]
    (expands : ∀ folder, LocalFilePath.getValue home filesPath = .ret folder →
      components (fromStr filesPath) = components folder)
    (defaultFile : Option Str) (target : RequestTarget) :
    OpenSameFile home filesPath defaultFile target ↔
      ∃ folder, LocalFilePath.getValue home filesPath = .ret folder ∧ folder ≠ [] ∧
        (target.query = none ∨ NamedByQuery defaultFile target) := by
  unfold OpenSameFile
  rw [LocalPathContent.opens_eq _ _ _ oneToken_get, if_neg (by simp)]
  constructor
  · rintro ⟨folder, _, path, value, ⟨⟩, opened, same⟩
    obtain ⟨_, sameValue, nonempty, below⟩ := LocalPathContentSrc.opens_iff opened
    cases value.symm.trans sameValue
    rw [fileIn_servedPath nonempty (expands folder value), fileIn_below below,
      pick_inj, selectedName_eq_iff] at same
    exact ⟨folder, value, nonempty, same⟩
  · rintro ⟨folder, value, nonempty, plain⟩
    obtain ⟨source, made⟩ := LocalPathContentSrc.new_returns defaultFile value nonempty
    have opened : LocalPathContentSrc.opens home filesPath defaultFile target =
        .ret (source.executeRequest target.path) := by
      rw [LocalPathContentSrc.opens, made]
      rfl
    obtain ⟨_, sameValue, _, below⟩ := LocalPathContentSrc.opens_iff opened
    cases value.symm.trans sameValue
    refine ⟨folder, _, _, value, rfl, opened, ?_⟩
    rw [fileIn_servedPath nonempty (expands folder value), fileIn_below below,
      pick_inj, selectedName_eq_iff]
    exact plain

/-! ### Other methods -/

theorem answerAlike_iff [SliceOfU8Ext] [WebContentType] (appVersion : String)
    (disk : Disk) (defaultFile : Option Str) {method : Str}
    (isMethod : OneToken method) (other : method ≠ "GET".toList)
    (target : RequestTarget) :
    AnswerAlike appVersion disk home filesPath defaultFile method target ↔
      ∃ folder, LocalFilePath.getValue home filesPath = .ret folder ∧ folder ≠ [] ∧
        disk (components folder ++ selectedName target.path defaultFile) =
          none := by
  let templates := errorTemplates appVersion
  have page : ∃ body, templates.notFound = buildWithBody 404 [] body := ⟨_, rfl⟩
  unfold AnswerAlike
  rw [LocalPathContent.answers_of_other _ _ _ disk isMethod other]
  constructor
  · rintro ⟨_, result, ⟨⟩, answered, headers, body, same⟩
    obtain ⟨folder, value, nonempty, status⟩ := LocalPathContentSrc.answers_status answered
    refine ⟨folder, value, nonempty, ?_⟩
    rw [← Option.not_isSome_iff_eq_none]
    intro found
    rw [status, if_pos found] at same
    obtain ⟨_, isPage⟩ := page
    exact buildWithBody_status_ne (isPage.symm.trans same)
  · rintro ⟨folder, value, nonempty, missing⟩
    obtain ⟨source, made⟩ := LocalPathContentSrc.new_returns defaultFile value nonempty
    have answered : LocalPathContentSrc.answers home filesPath defaultFile
        target disk = .ret (source.execute disk target.uriPath) := by
      rw [LocalPathContentSrc.answers, made]
      rfl
    obtain ⟨_, sameValue, _, status⟩ := LocalPathContentSrc.answers_status answered
    cases value.symm.trans sameValue
    obtain ⟨body, isPage⟩ := page
    refine ⟨_, _, rfl, answered, [], body, ?_⟩
    rw [status, missing, isPage]
    rfl

/-- The folder is set, and the request asks for a file by its path alone, or
for something that is not there. -/
def SelectsByPath (disk : Disk) (home : Option Str) (filesPath : Str)
    (defaultFile : Option Str) (method : Str) (target : RequestTarget) :
    Prop :=
  ∃ folder, LocalFilePath.getValue home filesPath = .ret folder ∧ folder ≠ [] ∧
    if method = "GET".toList then
      target.query = none ∨ NamedByQuery defaultFile target
    else
      disk (components folder ++ selectedName target.path defaultFile) = none

theorem file_selection_agrees_iff [SliceOfU8Ext] [WebContentType]
    (appVersion : String) (disk : Disk)
    (expands : ∀ folder, LocalFilePath.getValue home filesPath = .ret folder →
      components (fromStr filesPath) = components folder)
    (defaultFile : Option Str) {method : Str} (isMethod : OneToken method)
    (target : RequestTarget) :
    (if method = "GET".toList then
        OpenSameFile home filesPath defaultFile target
      else
        AnswerAlike appVersion disk home filesPath defaultFile method target) ↔
    SelectsByPath disk home filesPath defaultFile method target := by
  unfold SelectsByPath
  by_cases get : method = "GET".toList
  · simp only [if_pos get]
    exact openSameFile_iff expands defaultFile target
  · simp only [if_neg get]
    exact answerAlike_iff appVersion disk defaultFile isMethod get target

end

section

/-- Content types for statements that are evaluated on a fixed input. -/
@[reducible] def untyped : WebContentType :=
  { detectByExtension := fun _ => none }

attribute [local instance] linearSearch joinedPaths untyped

private def rootTarget : RequestTarget :=
  { path := "/".toList
    query := none
    rooted := rfl
    noMark := by decide
    noFragment := by decide
    solid := all_iff_forall_prop.mp (by decide) }

private def queriedRoot : RequestTarget :=
  { path := "/".toList
    query := some "v=1".toList
    rooted := rfl
    noMark := by decide
    noFragment := by decide
    solid := all_iff_forall_prop.mp (by decide) }

private theorem expands_w (folder : Str)
    (value : LocalFilePath.getValue none "/w".toList = .ret folder) :
    components (fromStr "/w".toList) = components folder := by
  cases value
  rfl

theorem file_selection_agrees_iff_root :
    OpenSameFile none "/w".toList (some "index.html".toList) rootTarget := by
  have agrees := file_selection_agrees_iff "1.0" (fun _ => none) expands_w
    (some "index.html".toList) oneToken_get rootTarget
  rw [if_pos rfl] at agrees
  refine agrees.mpr ⟨"/w".toList, by decide, by decide, ?_⟩
  rw [if_pos rfl]
  exact Or.inl rfl

/-- The folder with its default file. -/
private def oneFile : Disk :=
  fun path =>
    if path = components "/w/index.html".toList then some [] else none

/-- A query on the root is looked for as a file, and the default file is
served to any method over one of the pipelines only. -/
theorem query_names_file :
    LocalPathContent.opens "/w".toList (some "index.html".toList) "GET".toList
        queriedRoot = .ret (some "/w/?v=1".toList) ∧
      LocalPathContentSrc.opens none "/w".toList (some "index.html".toList)
        queriedRoot = .ret "/w/index.html".toList ∧
      ¬ OpenSameFile none "/w".toList (some "index.html".toList) queriedRoot ∧
      ¬ AnswerAlike "1.0" oneFile none "/w".toList (some "index.html".toList)
        "POST".toList rootTarget := by
  refine ⟨?_, by decide +kernel, ?_, ?_⟩
  · rw [LocalPathContent.opens_eq _ _ _ oneToken_get]
    decide +kernel
  · rw [openSameFile_iff expands_w]
    rintro ⟨_, _, _, asked⟩
    rcases asked with asked | ⟨_, _, _, named, asked, same⟩
    · cases asked
    · cases named
      cases asked
      exact absurd same (by decide +kernel)
  · have isPost : OneToken "POST".toList := ⟨by decide, all_iff_forall_prop.mp (by decide)⟩
    rw [answerAlike_iff _ _ _ isPost (by decide)]
    rintro ⟨folder, value, _, missing⟩
    cases value
    exact absurd missing (by decide +kernel)

end

end ReverseProxy
