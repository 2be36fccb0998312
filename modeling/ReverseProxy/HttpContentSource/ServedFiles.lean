import ReverseProxy.HttpContentSource.LocalPath

/-!
# Files are served from the configured folder

The path that is opened lies in the folder exactly if what is put behind the
folder, resolved by itself, leads no level up, or comes back by the names it
went up from.
-/

namespace ReverseProxy

open Library LocalPathContentSrc FilePaths Path Outcome

variable (workingDir : List Str)

/-- `path` denotes something in `folder`. -/
def Inside (folder path : Str) : Prop :=
  resolve workingDir (components folder) <+: resolve workingDir (components path)

/-- What is put behind the folder goes up no level, or comes back by the last
names of the folder.  Behind an empty folder it starts at the root. -/
def ComesBack (folder name : Str) : Prop :=
  let place := resolve workingDir (components folder)
  let detour := detour (moves name)
  if folder = [] then place <+: detour.names
  else place.drop (place.length - detour.ups) <+: detour.names

variable {folder : Str}

theorem comesBack_iff {workingDir : List Str} (nonempty : folder ≠ []) (name : Str) :
    ComesBack workingDir folder name ↔
      resolve workingDir (components folder) <+:
        walk (resolve workingDir (components folder)) (moves name) := by
  unfold ComesBack
  rw [if_neg nonempty, walk_eq_follow, Detour.prefix_follow_iff]

theorem inside_slash_iff {front : Str} (same : components (front ++ ['/']) = components folder)
    (nonempty : folder ≠ []) (rest : Str) :
    Inside workingDir folder (front ++ '/' :: rest) ↔
      ComesBack workingDir folder rest := by
  rw [comesBack_iff nonempty, Inside, resolve_slash, same]

theorem comesBack_slash (folder name : Str) :
    ComesBack workingDir folder ('/' :: name) ↔
      ComesBack workingDir folder name := by
  unfold ComesBack
  rw [moves_slash]

theorem joinSegment_eq (segment : Str) :
    ∃ front rest, joinSegment folder segment = front ++ '/' :: rest ∧
      (segment = rest ∨ segment = '/' :: rest) ∧
      (folder = front ++ ['/'] ∨ folder = front) := by
  unfold joinSegment
  by_cases trailing : folder.getLast? = some '/'
  · rw [if_pos trailing]
    obtain ⟨front, rfl⟩ := List.getLast?_eq_some_iff.mp trailing
    cases segment with
    | nil => exact ⟨front, [], by simp, Or.inl rfl, Or.inl rfl⟩
    | cons symbol segment =>
      by_cases leading : symbol = '/'
      · subst leading
        exact ⟨front, segment, by simp, Or.inr rfl, Or.inl rfl⟩
      · refine ⟨front, symbol :: segment, ?_, Or.inl rfl, Or.inl rfl⟩
        rw [if_neg (by simpa using leading)]
        simp
  · rw [if_neg trailing]
    cases segment with
    | nil => exact ⟨folder, [], by simp, Or.inl rfl, Or.inr rfl⟩
    | cons symbol segment =>
      by_cases leading : symbol = '/'
      · subst leading
        exact ⟨folder, segment, by simp, Or.inr rfl, Or.inr rfl⟩
      · refine ⟨folder, symbol :: segment, ?_, Or.inl rfl, Or.inr rfl⟩
        rw [if_neg (by simpa using leading)]

theorem inside_behind_iff {front : Str} (folderIs : folder = front ++ ['/'] ∨ folder = front)
    (rest : Str) :
    Inside workingDir folder (front ++ '/' :: rest) ↔ ComesBack workingDir folder rest := by
  by_cases empty : folder = []
  · -- Behind the empty text the separator leads to the root.
    have root : front = [] := by
      rcases folderIs with trailing | plain
      · simp [empty] at trailing
      · rw [← plain, empty]
    have rootPlace : resolve workingDir (components ([] ++ ['/'])) = [] :=
      rfl
    rw [Inside, resolve_slash, walk_eq_follow, ComesBack, if_pos empty, root,
      rootPlace, Detour.follow_nil]
  · apply inside_slash_iff workingDir _ empty
    rcases folderIs with trailing | plain
    · rw [trailing]
    · rw [← plain]
      exact components_trailing empty

theorem inside_joinSegment_iff (folder name : Str) :
    Inside workingDir folder (joinSegment folder name) ↔
      ComesBack workingDir folder name := by
  obtain ⟨front, rest, joined, nameIs, folderIs⟩ := @joinSegment_eq folder name
  rw [joined, inside_behind_iff workingDir folderIs]
  rcases nameIs with rfl | rfl
  · rfl
  · exact (comesBack_slash workingDir folder rest).symm

/-! ## The three routines -/

section

variable [FilePaths]

theorem LocalPathContent.openedPath_sendHeaders [SliceOfU8Ext]
    {content sent : LocalPathContent} {requestId : Nat} {firstLine : Bytes}
    {verb path : Str} (line : getVerbAndPath firstLine = .ret (verb, path))
    (stored : content.sendHeaders requestId firstLine = .ret sent) :
    sent.openedPath requestId =
      if verb ≠ "GET".toList then none
      else servedPath content.filesPath path content.defaultFile := by
  unfold sendHeaders at stored
  rw [line, bind_ret] at stored
  cases stored
  unfold openedPath
  simp

/-- The HTTP/1 pipeline: the target of the request line, or the default file
in place of `/`. -/
theorem openedPath_inside_iff [SliceOfU8Ext] (workingDir : List Str)
    {filesPath : Str} {defaultFile : Option Str} {sent : LocalPathContent}
    {firstLine : Bytes} {verb target : Str}
    (line : getVerbAndPath firstLine = .ret (verb, target))
    (stored : (LocalPathContent.new filesPath defaultFile).sendHeaders 0 firstLine = .ret sent) :
    (∀ path, sent.openedPath 0 = some path → Inside workingDir (fromStr filesPath) path) ↔
      (verb = "GET".toList → ∀ name, servedName target defaultFile = some name →
        ComesBack workingDir (fromStr filesPath) name) := by
  have joined : ∀ name,
      Inside workingDir (fromStr filesPath)
          (appendSegment (fromStr filesPath) name) ↔
        ComesBack workingDir (fromStr filesPath) name := by
    intro name
    rw [← inside_joinSegment_iff, Inside, Inside, components_appendSegment]
  rw [LocalPathContent.openedPath_sendHeaders line stored]
  by_cases get : verb = "GET".toList
  · simp only [get, ne_eq, not_true_eq_false, if_false, forall_const,
      servedPath, LocalPathContent.new, Option.map_eq_some_iff,
      forall_exists_index, and_imp, forall_apply_eq_imp_iff₂, joined]
  · rw [if_pos get]
    exact iff_of_true (fun _ opened => by cases opened) (fun sentGet => absurd sentGet get)

end

/-- The last segment of a path. -/
def lastSegment (path : Str) : Str :=
  match rsplitOnce '/' path with
  | some (_, last) => last
  | none => path

/-- Nothing but a separator can be dropped from the folder. -/
theorem LocalPathContentSrc.new_eq_ret {home : Option Str}
    {location : Str} {defaultFile : Option Str} {source : LocalPathContentSrc}
    (made : new home location defaultFile = .ret source) :
    ∃ folder, LocalFilePath.getValue home location = .ret folder ∧
      folder ≠ [] ∧ source.defaultFile = defaultFile ∧
      (folder = source.filePath ++ ['/'] ∨ folder = source.filePath) := by
  obtain ⟨folder, value, rest⟩ := bind_eq_ret_iff.mp made
  cases last : folder.getLast? with
  | none =>
    simp only [last] at rest
    cases rest
  | some symbol =>
    simp only [last] at rest
    obtain ⟨front, rfl⟩ := List.getLast?_eq_some_iff.mp last
    refine ⟨_, value, by simp, ?_, ?_⟩
    · cases rest
      rfl
    · by_cases slash : symbol = '/'
      · rw [if_pos slash] at rest
        cases rest
        exact Or.inl (by simp [slash])
      · rw [if_neg slash] at rest
        cases rest
        exact Or.inr rfl

/-- A text without a leading separator is walked from the working
directory. -/
theorem resolve_relative {text : Str} (relative : text.head? ≠ some '/') :
    resolve workingDir (components text) = walk workingDir (moves text) := by
  unfold components moves
  cases split : text.splitOn '/' with
  | nil => rfl
  | cons first rest =>
    dsimp only
    rw [if_neg relative, ← resolve_segments]
    by_cases dot : first = ['.']
    · rw [if_pos dot, dot]
      rfl
    rw [if_neg dot, List.filterMap_cons]
    cases component first with
    | none => rfl
    | some part => rfl

theorem moves_of_not_mem {segment : Str} (noSlash : '/' ∉ segment) :
    moves segment = (segmentMove segment).toList := by
  unfold moves
  rw [splitOn_of_not_mem noSlash, List.filterMap_cons]
  cases segmentMove segment with
  | none => rfl
  | some move => rfl

theorem segmentMove_star (last : Str) :
    segmentMove (last ++ ['*']) = some (.down (last ++ ['*'])) := by
  have star : '*' ∈ last ++ ['*'] := by simp
  unfold segmentMove
  rw [if_neg, if_neg]
  · intro dots
    rw [dots] at star
    exact absurd star (by decide)
  · intro skipped
    rcases Bool.or_eq_true_iff.mp skipped with empty | dot
    · rw [of_decide_eq_true empty] at star
      cases star
    · rw [of_decide_eq_true dot] at star
      exact absurd star (by decide)

/-- A star behind the last segment of a folder makes a sibling of a name, and
a member of what `.` and `..` denote. -/
theorem prefix_star_iff (place : List Str) {last : Str} (noSlash : '/' ∉ last) :
    walk place (moves last) <+: walk place (moves (last ++ ['*'])) ↔
      last ∈ [[], ['.'], ['.', '.']] := by
  have starred : walk place (moves (last ++ ['*'])) = place ++ [last ++ ['*']] := by
    rw [moves_of_not_mem (by simpa using noSlash), segmentMove_star]
    rfl
  rw [starred, moves_of_not_mem noSlash]
  by_cases empty : last = []
  · rw [empty]
    exact iff_of_true (List.prefix_append _ _) (by simp)
  by_cases dot : last = ['.']
  · rw [dot]
    exact iff_of_true (List.prefix_append _ _) (by simp)
  by_cases dots : last = ['.', '.']
  · rw [dots]
    exact iff_of_true ((List.dropLast_prefix place).trans (List.prefix_append _ _)) (by simp)
  have name : segmentMove last = some (.down last) := by
    simp [segmentMove, empty, dot, dots]
  rw [name]
  refine iff_of_false ?_ (by simp [empty, dot, dots])
  intro sibling
  have same := (List.prefix_append_right_inj place).mp sibling
  simp at same

theorem resolve_filePath {workingDir : List Str} {filePath : Str}
    (folderIs : folder = filePath ++ ['/'] ∨ folder = filePath)
    (named : filePath ≠ []) :
    resolve workingDir (components folder) =
      resolve workingDir (components filePath) := by
  rcases folderIs with trailing | plain
  · rw [trailing, components_trailing named]
  · rw [plain]

theorem inside_star_iff {filePath : Str} (nonempty : folder ≠ [])
    (folderIs : folder = filePath ++ ['/'] ∨ folder = filePath) :
    Inside workingDir folder (filePath ++ ['*']) ↔
      lastSegment filePath ∈ [[], ['.'], ['.', '.']] := by
  by_cases unnamed : filePath = []
  · -- Everything is below the root.
    have root : folder = ['/'] := by
      rcases folderIs with trailing | plain
      · rw [trailing, unnamed]
        rfl
      · exact absurd (plain.trans unnamed) nonempty
    rw [unnamed, root]
    exact iff_of_true (List.nil_prefix) (by decide)
  rw [Inside, resolve_filePath folderIs unnamed, lastSegment]
  cases split : rsplitOnce '/' filePath with
  | some parts =>
    obtain ⟨front, last⟩ := parts
    obtain ⟨rfl, noSlash⟩ := rsplitOnce_eq_some_iff.mp split
    rw [List.append_assoc, List.cons_append, resolve_slash workingDir front last,
      resolve_slash workingDir front (last ++ ['*'])]
    exact prefix_star_iff _ noSlash
  | none =>
    have noSlash := rsplitOnce_eq_none_iff.mp split
    have relative : ∀ rest : Str, (filePath ++ rest).head? ≠ some '/' := by
      intro rest leading
      rw [List.head?_append_of_ne_nil _ unnamed] at leading
      exact noSlash (List.mem_of_head? leading)
    rw [resolve_relative workingDir (relative ['*']),
      resolve_relative workingDir (by simpa using relative [])]
    exact prefix_star_iff workingDir noSlash

theorem comesBack_nil (nonempty : folder ≠ []) :
    ComesBack workingDir folder [] := by
  rw [comesBack_iff nonempty]
  exact List.prefix_rfl

/-- The local source of the HTTP/2 pipeline: the path of the request URI, or
the default file in place of `/`. -/
theorem executeRequest_inside_iff {source : LocalPathContentSrc} (nonempty : folder ≠ [])
    (folderIs : folder = source.filePath ++ ['/'] ∨ folder = source.filePath) (uri : UriPath) :
    Inside workingDir folder (source.executeRequest uri.text) ↔
      if uri.text = ['*'] then
        lastSegment source.filePath ∈ [[], ['.'], ['.', '.']]
      else
        ∀ name, servedName uri.text source.defaultFile = some name →
          ComesBack workingDir folder name := by
  have same : components (source.filePath ++ ['/']) = components folder := by
    rcases folderIs with trailing | plain
    · rw [trailing]
    · rw [← plain, components_trailing nonempty]
  have below := fun rest => inside_slash_iff workingDir same nonempty rest
  rcases uri.form with empty | star | leading
  · have here : Inside workingDir folder source.filePath := by
      by_cases unnamed : source.filePath = []
      · rcases folderIs with trailing | plain
        · rw [Inside, trailing, unnamed]
          exact List.nil_prefix
        · exact absurd (plain.trans unnamed) nonempty
      · rw [Inside, resolve_filePath folderIs unnamed]
    have atRoot : ¬ uri.text = ['/'] := by simp [empty]
    rw [if_neg (by simp [empty]), executeRequest,
      if_neg atRoot, servedName, if_neg atRoot, empty, List.append_nil]
    refine iff_of_true here ?_
    rintro name same
    cases same
    exact comesBack_nil workingDir nonempty
  · have atRoot : ¬ uri.text = ['/'] := by simp [star]
    rw [if_pos star, executeRequest, if_neg atRoot, star]
    exact inside_star_iff workingDir nonempty folderIs
  · obtain ⟨rest, text⟩ : ∃ rest, uri.text = '/' :: rest := List.head?_eq_some_iff.mp leading
    rw [if_neg (by simp [text]), executeRequest, servedName, text]
    by_cases atRoot : '/' :: rest = ['/']
    · rw [if_pos atRoot, if_pos atRoot]
      cases source.defaultFile with
      | none =>
        rw [atRoot, below]
        exact iff_of_true (comesBack_nil workingDir nonempty) (fun _ none => by cases none)
      | some defaultFile =>
        rw [below]
        simp
    · rw [if_neg atRoot, if_neg atRoot, below]
      simp [comesBack_slash]

section

variable [HomePaths]

/-- What the peer opens behind the folder: if the folder begins with a `~`, the
home directory also takes the place of every `~` of the name. -/
def openedName (filesPath name : Str) : Str :=
  if filesPath.head? = some '~' then expandHome HomePaths.home name else name

theorem fromStr_joinSegment_inside_iff (filesPath name : Str) :
    Inside workingDir (fromStr filesPath) (fromStr (joinSegment filesPath name)) ↔
      ComesBack workingDir (fromStr filesPath) (openedName filesPath name) := by
  obtain ⟨front, rest, joined, nameIs, folderIs⟩ := @joinSegment_eq filesPath name
  have sameHead : (front ++ '/' :: rest).head? = some '~' ↔ filesPath.head? = some '~' := by
    rcases folderIs with trailing | plain
    · cases front <;> simp [trailing]
    · cases front <;> simp [plain]
  rw [joined, HomePaths.fromStr_eq, HomePaths.fromStr_eq, openedName]
  by_cases tilde : filesPath.head? = some '~'
  · rw [if_pos tilde, if_pos tilde, if_pos (sameHead.mpr tilde)]
    have expanded : expandHome HomePaths.home (front ++ '/' :: rest) =
        expandHome HomePaths.home front ++ '/' :: expandHome HomePaths.home rest := by
      simp [expandHome]
    rw [expanded, inside_behind_iff workingDir]
    · rcases nameIs with rfl | rfl
      · rfl
      · exact (comesBack_slash workingDir _ _).symm
    · rcases folderIs with rfl | rfl
      · exact .inl (by simp [expandHome])
      · exact .inr rfl
  · rw [if_neg tilde, if_neg tilde, if_neg (mt sameHead.mp tilde), ← joined]
    exact inside_joinSegment_iff workingDir filesPath name

/-- The source over a gateway, whose peer opens `FilePath::from_str` of the text
it is sent. -/
theorem mergePathAndFile_inside_iff (filesPath reqPath : Str) (defaultFile : Option Str) :
    Inside workingDir (fromStr filesPath)
        (fromStr (mergePathAndFile filesPath reqPath defaultFile)) ↔
      ∀ name, mergedName reqPath defaultFile = some name →
        ComesBack workingDir (fromStr filesPath) (openedName filesPath name) := by
  unfold mergePathAndFile
  cases mergedName reqPath defaultFile with
  | none => exact iff_of_true List.prefix_rfl (fun _ none => by cases none)
  | some name =>
    rw [fromStr_joinSegment_inside_iff]
    simp

end

/-! ## All of them -/

/-- Each routine stays in its folder exactly if what it puts behind the folder
comes back. -/
theorem served_inside_iff [HomePaths] [SliceOfU8Ext] (workingDir : List Str)
    (home : Option Str) (filesPath : Str) (defaultFile : Option Str) :
    (∀ firstLine verb target sent, getVerbAndPath firstLine = .ret (verb, target) →
      (LocalPathContent.new filesPath defaultFile).sendHeaders 0 firstLine = .ret sent →
      ((∀ path, sent.openedPath 0 = some path →
          Inside workingDir (fromStr filesPath) path) ↔
        (verb = "GET".toList →
          ∀ name, servedName target defaultFile = some name →
            ComesBack workingDir (fromStr filesPath) name))) ∧
      (∀ folder source, LocalFilePath.getValue home filesPath = .ret folder →
        new home filesPath defaultFile = .ret source →
        ∀ uri : UriPath, (Inside workingDir folder (source.executeRequest uri.text) ↔
            if uri.text = ['*'] then
              lastSegment source.filePath ∈ [[], ['.'], ['.', '.']]
            else
              ∀ name, servedName uri.text defaultFile = some name →
                ComesBack workingDir folder name)) ∧
      ∀ uri : UriPath, (Inside workingDir (fromStr filesPath)
            (fromStr (mergePathAndFile filesPath uri.text defaultFile)) ↔
          ∀ name, mergedName uri.text defaultFile = some name →
            ComesBack workingDir (fromStr filesPath) (openedName filesPath name)) := by
  refine ⟨?_, ?_, ?_⟩
  · intro firstLine verb target sent line stored
    exact openedPath_inside_iff workingDir line stored
  · intro folder source value made uri
    obtain ⟨sameFolder, sameValue, nonempty, sameDefault, folderIs⟩ :=
      new_eq_ret made
    have same : sameFolder = folder := ret.inj (sameValue.symm.trans value)
    subst same
    rw [← sameDefault]
    exact executeRequest_inside_iff workingDir nonempty folderIs uri
  · intro uri
    exact mergePathAndFile_inside_iff workingDir filesPath uri.text defaultFile

section

@[reducible] private def homePaths : HomePaths :=
  { joinedPaths with
    fromStr := fun path => if path.head? = some '~' then expandHome "/h".toList path else path
    home := "/h".toList
    fromStr_eq := fun _ => rfl }

attribute [local instance] linearSearch homePaths

private def climbing : UriPath :=
  { text := "/../x".toList
    form := Or.inr (Or.inr rfl) }

/-- The home directory takes the place of its `~` only at the peer. -/
private def homeward : UriPath :=
  { text := "/..~/x".toList
    form := Or.inr (Or.inr rfl) }

private def climbingLine : Bytes := ascii "GET /../x HTTP/1.1"

private theorem climbing_line :
    getVerbAndPath climbingLine = .ret ("GET".toList, "/../x".toList) := by
  decide +kernel

private theorem climbing_sent : ∃ sent,
    (LocalPathContent.new "/w".toList none).sendHeaders 0 climbingLine = .ret sent := by
  rw [LocalPathContent.sendHeaders, climbing_line, bind_ret]
  exact ⟨_, rfl⟩

private theorem climbing_source : new none "/w".toList none =
    .ret { filePath := "/w".toList, defaultFile := none } := by
  decide +kernel

theorem served_inside_iff_climbing :
    (∃ sent,
      (LocalPathContent.new "/w".toList none).sendHeaders 0 climbingLine = .ret sent ∧
        ((∀ path, sent.openedPath 0 = some path → Inside [] "/w".toList path) ↔
          ("GET".toList = "GET".toList →
            ∀ name, servedName "/../x".toList none = some name → ComesBack [] "/w".toList name))) ∧
      (Inside [] "/w".toList (executeRequest
          { filePath := "/w".toList, defaultFile := none } climbing.text) ↔
        if climbing.text = ['*'] then
          lastSegment "/w".toList ∈ [[], ['.'], ['.', '.']]
        else
          ∀ name, servedName climbing.text none = some name → ComesBack [] "/w".toList name) ∧
      (Inside [] (fromStr "~/w".toList)
          (fromStr (mergePathAndFile "~/w".toList homeward.text none)) ↔
        ∀ name, mergedName homeward.text none = some name →
          ComesBack [] (fromStr "~/w".toList) (openedName "~/w".toList name)) := by
  obtain ⟨sent, stored⟩ := climbing_sent
  have value : LocalFilePath.getValue none "/w".toList = .ret "/w".toList := by
    decide +kernel
  have both := served_inside_iff [] none "/w".toList none
  exact ⟨⟨sent, stored, both.1 climbingLine _ _ sent climbing_line stored⟩,
    both.2.1 _ _ value climbing_source climbing,
    (served_inside_iff [] none "~/w".toList none).2.2 homeward⟩

/-- `..` leads out of the folder through each of the three. -/
theorem parent_segment_leaves_folder :
    verifyHttp11FirstLine climbingLine = .ok () ∧ (∃ sent,
        (LocalPathContent.new "/w".toList none).sendHeaders 0 climbingLine = .ret sent ∧
          sent.openedPath 0 = some "/w/../x".toList) ∧
      (∃ source,
        new none "/w".toList none = .ret source ∧
          source.executeRequest climbing.text = "/w/../x".toList) ∧
      mergePathAndFile "/w".toList climbing.text none = "/w/../x".toList ∧
      ¬ Inside [] "/w".toList "/w/../x".toList := by
  have accepted : verifyHttp11FirstLine climbingLine = .ok () := by
    decide +kernel
  obtain ⟨sent, stored⟩ := climbing_sent
  have opened : sent.openedPath 0 = some "/w/../x".toList := by
    rw [LocalPathContent.openedPath_sendHeaders climbing_line stored]
    rfl
  have executed : executeRequest
      { filePath := "/w".toList, defaultFile := none } climbing.text = "/w/../x".toList := by
    decide +kernel
  have merged : mergePathAndFile "/w".toList climbing.text none = "/w/../x".toList := by
    decide +kernel
  have outside : ¬ resolve [] (components "/w".toList) <+:
      resolve [] (components "/w/../x".toList) := by
    decide +kernel
  exact ⟨accepted, ⟨sent, stored, opened⟩, ⟨_, climbing_source, executed⟩, merged, outside⟩

end

end ReverseProxy
