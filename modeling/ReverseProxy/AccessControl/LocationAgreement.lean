import ReverseProxy.Configurations.TextSlices
import ReverseProxy.H1ProxyServer.Pipeline.Admission
import ReverseProxy.HttpProxyPass.SendPayload

/-!
# The location a request goes to

`find_location` takes the first location whose path begins the path it is given.
The dispatch of HTTP/1 gives it the query too, the OAuth gates and the hyper
pipeline do not.
-/

namespace ReverseProxy

open Library HttpEndpointInfo

/-! ## The search on texts -/

/-- The first location whose path begins this one, in any ASCII case. -/
def firstLocation (locations : List ProxyPassLocationConfig) (path : Str) :
    Option ProxyPassLocationConfig :=
  locations.find? (startsIgnoreAsciiCase path ·.path)

section

variable {path : Str} {location : ProxyPassLocationConfig}
  (locations : List ProxyPassLocationConfig)

theorem findLocationIn_starts (starts : startsIgnoreAsciiCase path location.path = true) :
    findLocationIn (asBytes path) (location :: locations) = .ret (some location) := by
  obtain ⟨fits, named⟩ := named_slice_iff.mpr starts
  have between := isCharBoundary_of_not_cuts (not_cuts_of_starts starts) fits
  simp [findLocationIn, Nat.not_lt.mpr fits, between, named]

theorem findLocationIn_cuts (cuts : CutsCharacter path (asBytes location.path).length) :
    findLocationIn (asBytes path) (location :: locations) = .panic := by
  obtain ⟨fits, inside⟩ := cutsCharacter_iff.mp cuts
  simp [findLocationIn, Nat.not_lt.mpr fits, inside]

theorem findLocationIn_skips (starts : ¬ startsIgnoreAsciiCase path location.path = true)
    (cuts : ¬ CutsCharacter path (asBytes location.path).length) :
    findLocationIn (asBytes path) (location :: locations) =
      findLocationIn (asBytes path) locations := by
  rw [findLocationIn]
  by_cases longer : (asBytes location.path).length > (asBytes path).length
  · rw [if_pos longer]
  have fits := Nat.not_lt.mp longer
  have between := isCharBoundary_of_not_cuts cuts fits
  have differs : ¬ isNamed ((asBytes path).take (asBytes location.path).length)
      (asBytes location.path) = true :=
    fun named => starts (named_slice_iff.mp ⟨fits, named⟩)
  rw [if_neg longer, between]
  simp [differs]

end

/-! ## A path and what follows it -/

/-- What both OAuth gates and hyper call the path. -/
def pathOf (target : Str) : Str := target.takeWhile (· != '?')

theorem exists_pathOf_append (target : Str) : ∃ query, target = pathOf target ++ query :=
  ⟨_, (List.takeWhile_append_dropWhile ..).symm⟩

/-! ## The callers -/

section

variable [SliceOfU8Ext]

/-- `H1Reader::find_location`. -/
def H1Reader.findLocation (reader : H1Reader) (headers : Http1Headers)
    (connectionInfo : HttpConnectionInfo) :
    Outcome (Except ProxyServerError (ProxyPassLocationConfig × HttpEndpointInfo)) :=
  match connectionInfo.endpointInfo with
  | none => .ret (.error .httpConfigurationIsNotFound)
  | some info => do
    let buffer ← reader.buffer.getData
    let path ← getPathAndQuery (headers.getFirstLine buffer)
    match ← info.findLocation (asBytes path) with
    | none => return .error .locationIsNotFound
    | some location => return .ok (location, info)

theorem selectRoute_location [RemoteEndpointParser] [StrUtils] {app : AppCtx}
    {info : HttpEndpointInfo} {connectionInfo : HttpConnectionInfo}
    {headers : Http1Headers} {buf : Bytes} {route : Route} {reader : H1Reader}
    (routed : selectRoute app info connectionInfo headers buf = .ret (.ok route))
    (known : connectionInfo.endpointInfo = some info)
    (view : reader.buffer.getData = .ret buf) :
    reader.findLocation headers connectionInfo = .ret (.ok (route.location, info)) := by
  obtain ⟨target, read, search, _⟩ := admitLocation_eq_some_iff.mp (selectRoute_admits routed)
  simp [H1Reader.findLocation, known, view, read, search]

end

/-! ## Agreement -/

section

variable [StrUtils]

/-- For this target the search of every caller ends in the first location whose
path begins the path: with the path and query as the dispatch of HTTP/1 gives
them, with the path as the gates do, and on the hyper pipeline. -/
structure SelectsAlike (pass : HttpProxyPass) (target : Str) : Prop where
  dispatch : pass.endpointInfo.findLocation (asBytes target) =
    .ret (firstLocation pass.endpointInfo.locations target)
  gate : pass.endpointInfo.findLocation (asBytes (pathOf target)) =
    .ret (firstLocation pass.endpointInfo.locations (pathOf target))
  hyper : pass.findLocationIndex (pathOf target) =
    firstLocation pass.endpointInfo.locations (pathOf target)
  same : firstLocation pass.endpointInfo.locations target =
    firstLocation pass.endpointInfo.locations (pathOf target)

end

section

variable {path : Str}

/-- The search on a list of locations goes as on texts, and for the path as
for the whole target. -/
structure SearchesAlike (path target : Str) (locations : List ProxyPassLocationConfig) : Prop where
  whole : findLocationIn (asBytes target) locations = .ret (firstLocation locations target)
  alone : findLocationIn (asBytes path) locations = .ret (firstLocation locations path)
  same : firstLocation locations target = firstLocation locations path

/-- The location neither cuts the target nor goes on behind the path. -/
structure Harmless (path target : Str) (location : ProxyPassLocationConfig) : Prop where
  between : ¬ CutsCharacter target (asBytes location.path).length
  inside : startsIgnoreAsciiCase target location.path = true →
    startsIgnoreAsciiCase path location.path = true

variable {location : ProxyPassLocationConfig}

theorem firstLocation_starts (locations : List ProxyPassLocationConfig)
    (starts : startsIgnoreAsciiCase path location.path = true) :
    firstLocation (location :: locations) path = some location :=
  List.find?_cons_of_pos starts

theorem firstLocation_skips (locations : List ProxyPassLocationConfig)
    (starts : ¬ startsIgnoreAsciiCase path location.path = true) :
    firstLocation (location :: locations) path =
      firstLocation locations path :=
  List.find?_cons_of_neg starts

theorem searchesAlike_skips (query : Str) (locations : List ProxyPassLocationConfig)
    (starts : ¬ startsIgnoreAsciiCase (path ++ query) location.path = true)
    (cuts : ¬ CutsCharacter (path ++ query) (asBytes location.path).length) :
    SearchesAlike path (path ++ query) (location :: locations) ↔
      SearchesAlike path (path ++ query) locations := by
  have alone : ¬ startsIgnoreAsciiCase path location.path = true :=
    fun here => starts (startsIgnoreAsciiCase_append query here)
  have cutsAlone : ¬ CutsCharacter path (asBytes location.path).length :=
    fun inside => cuts (inside.append query)
  have whole := findLocationIn_skips locations starts cuts
  have short := findLocationIn_skips locations alone cutsAlone
  have firstWhole := firstLocation_skips locations starts
  have firstShort := firstLocation_skips locations alone
  constructor
  · rintro ⟨searchWhole, searchShort, same⟩
    rw [whole, firstWhole] at searchWhole
    rw [short, firstShort] at searchShort
    rw [firstWhole, firstShort] at same
    exact ⟨searchWhole, searchShort, same⟩
  · rintro ⟨searchWhole, searchShort, same⟩
    refine ⟨?_, ?_, ?_⟩
    · rw [whole, firstWhole, searchWhole]
    · rw [short, firstShort, searchShort]
    · rw [firstWhole, firstShort, same]

theorem searchesAlike_iff (path query : Str) (locations : List ProxyPassLocationConfig) :
    SearchesAlike path (path ++ query) locations ↔
      ∀ location,
        Reached (fun earlier => startsIgnoreAsciiCase path earlier.path = true)
          locations location → Harmless path (path ++ query) location := by
  induction locations with
  | nil =>
    constructor
    · intro _ location reached
      exact absurd reached Reached.not_nil
    · intro _
      exact ⟨rfl, rfl, rfl⟩
  | cons location locations ih =>
    simp only [reached_cons_iff]
    by_cases here : startsIgnoreAsciiCase path location.path = true
    · have there := startsIgnoreAsciiCase_append query here
      constructor
      · rintro _ other (rfl | ⟨notHere, _⟩)
        · exact ⟨not_cuts_of_starts there, fun _ => here⟩
        · exact absurd here notHere
      · intro _
        refine ⟨?_, ?_, ?_⟩
        · rw [findLocationIn_starts locations there, firstLocation_starts locations there]
        · rw [findLocationIn_starts locations here, firstLocation_starts locations here]
        · rw [firstLocation_starts locations there, firstLocation_starts locations here]
    · by_cases harmless : Harmless path (path ++ query) location
      · have notThere : ¬ startsIgnoreAsciiCase (path ++ query) location.path = true :=
          fun there => here (harmless.inside there)
        rw [searchesAlike_skips query locations notThere harmless.between, ih]
        constructor
        · rintro later other (rfl | ⟨_, reached⟩)
          · exact harmless
          · exact later other reached
        · intro each other reached
          exact each other (Or.inr ⟨here, reached⟩)
      · -- The search stops here, by a panic or with this location.
        constructor
        · rintro ⟨whole, _, same⟩
          refine absurd ⟨?_, ?_⟩ harmless
          · intro cuts
            rw [findLocationIn_cuts locations cuts] at whole
            cases whole
          · intro there
            rw [firstLocation_starts locations there] at same
            have found := List.find?_some same.symm
            exact found
        · intro each
          exact absurd (each location (Or.inl rfl)) harmless

end

section

variable [StrUtils]

/-- The callers select alike exactly if no location that the search for the
path reaches ends inside a character of the target or goes on into its query. -/
theorem selectsAlike_iff_harmless {pass : HttpProxyPass} {target : Str}
    (compares : ∀ start, startsWithCaseInsensitive (pathOf target) start =
      startsIgnoreAsciiCase (pathOf target) start) :
    SelectsAlike pass target ↔ ∀ location, Reached (fun earlier =>
            startsIgnoreAsciiCase (pathOf target) earlier.path = true)
          pass.endpointInfo.locations location →
        Harmless (pathOf target) target location := by
  obtain ⟨query, split⟩ := exists_pathOf_append target
  have search := searchesAlike_iff (pathOf target) query pass.endpointInfo.locations
  rw [← split] at search
  rw [← search]
  have hyper : pass.findLocationIndex (pathOf target) =
      firstLocation pass.endpointInfo.locations (pathOf target) := by
    simp only [HttpProxyPass.findLocationIndex, firstLocation, compares]
  constructor
  · intro alike
    exact ⟨alike.dispatch, alike.gate, alike.same⟩
  · intro searches
    exact ⟨searches.whole, searches.alone, hyper, searches.same⟩

end

/-! ## Characters at the end of a location path -/

section

attribute [local instance] asciiCase

/-- A hyper connection to an endpoint with one location. -/
def locationPass (path : String) : HttpProxyPass :=
  { endpointInfo :=
      { hostEndpoint := { src := "80".toList, port := some 80, index := none }
        listenEndpointType := .http1
        locations := [{ path := path.toList, proxyPassTo := .drop }] }
    listenHost := "80".toList
    identity := none }

theorem selectsAlike_iff_harmless_query :
    SelectsAlike (locationPass "/api") "/API/users?id=1".toList := by
  apply (selectsAlike_iff_harmless fun _ => rfl).mpr
  intro location reached
  rcases reached_cons_iff.mp reached with rfl | ⟨_, later⟩
  · exact ⟨not_cuts_of_starts (by decide), fun _ => by decide⟩
  · exact absurd later Reached.not_nil

/-- One character behind `/a` is sliced, in the path or in the query. -/
theorem location_slice_panics :
    (locationPass "/ab").endpointInfo.findLocation (asBytes "/aé".toList) = .panic ∧
      (locationPass "/abc").endpointInfo.findLocation (asBytes "/a?é".toList) = .panic ∧
      ¬ SelectsAlike (locationPass "/ab") "/aé".toList ∧
      ¬ SelectsAlike (locationPass "/abc") "/a?é".toList := by
  have inPath : (locationPass "/ab").endpointInfo.findLocation (asBytes "/aé".toList) = .panic := by
    decide
  have inQuery : (locationPass "/abc").endpointInfo.findLocation
      (asBytes "/a?é".toList) = .panic := by
    decide
  refine ⟨inPath, inQuery, ?_, ?_⟩
  · intro alike
    cases inPath.symm.trans alike.dispatch
  · intro alike
    cases inQuery.symm.trans alike.dispatch

end

end ReverseProxy
