import Mathlib.Algebra.Order.BigOperators.Group.List
import ReverseProxy.OAuth.LocationGate

/-!
# What a token for one path opens

A token whose audience is a path should open that path and what lies below it.
Locations match by their first characters alone, so it does exactly if every
location the search can end at closes its path with a slash.
-/

namespace ReverseProxy

open HttpEndpointInfo Outcome OAuthServer List

/-! ## Slashes in octets -/

theorem slash_of_mem_utf8EncodeChar {symbol : Char}
    (member : 47 ∈ String.utf8EncodeChar symbol) : symbol = '/' :=
  utf8EncodeChar_of_ascii_mem member (by decide)

variable {text : Str}

theorem head?_asBytes_slash_iff :
    (asBytes text).head? = some 47 ↔ text.head? = some '/' := by
  cases text with
  | nil => simp [asBytes]
  | cons symbol rest =>
    rw [asBytes_cons, head?_cons, Option.some.injEq]
    constructor
    · intro first
      apply slash_of_mem_utf8EncodeChar
      have nonempty : String.utf8EncodeChar symbol ≠ [] := by simp
      rw [head?_append_of_ne_nil _ nonempty] at first
      exact mem_of_head? first
    · rintro rfl
      rfl

theorem getLast?_asBytes_slash (last : (asBytes text).getLast? = some 47) :
    text.getLast? = some '/' := by
  cases text using reverseRecOn with
  | nil => simp [asBytes] at last
  | append_singleton front symbol =>
    have nonempty : String.utf8EncodeChar symbol ≠ [] := by simp
    rw [asBytes_append, show asBytes [symbol] = String.utf8EncodeChar symbol by simp [asBytes],
      getLast?_append_of_ne_nil _ nonempty] at last
    have same : symbol = '/' := slash_of_mem_utf8EncodeChar (mem_of_getLast? last)
    simp [same]

/-- `asPath` on octets. -/
def asPathBytes (octets : Bytes) : Bytes :=
  if octets.head? = some 47 then octets else 47 :: octets

theorem asBytes_asPath (path : Str) : asBytes (asPath path) = asPathBytes (asBytes path) := by
  unfold asPath asPathBytes
  by_cases slash : path.head? = some '/'
  · rw [if_pos slash, if_pos (head?_asBytes_slash_iff.mpr slash)]
  · rw [if_neg slash, if_neg fun first =>
      slash (head?_asBytes_slash_iff.mp first), asBytes_cons]
    rfl

theorem asPathBytes_append {octets : Bytes} (rest : Bytes) (nonempty : octets ≠ []) :
    asPathBytes (octets ++ rest) = asPathBytes octets ++ rest := by
  unfold asPathBytes
  rw [head?_append_of_ne_nil _ nonempty]
  split
  · rfl
  · rfl

variable {left right : Bytes}

theorem isNamed_asPathBytes (same : isNamed left right = true) :
    isNamed (asPathBytes left) (asPathBytes right) = true := by
  have heads : left.head? = some 47 ↔ right.head? = some 47 := by
    have folded := isNamed_iff.mp same
    cases left with
    | nil =>
      cases right with
      | nil => simp
      | cons octet right => simp at folded
    | cons first left =>
      cases right with
      | nil => simp at folded
      | cons second right =>
        simp only [map_cons, List.cons.injEq] at folded
        simp only [head?_cons, Option.some.injEq]
        constructor
        · rintro rfl
          exact toLowerCase_eq_slash folded.1.symm
        · rintro rfl
          exact toLowerCase_eq_slash folded.1
  unfold asPathBytes
  by_cases slash : left.head? = some 47
  · rw [if_pos slash, if_pos (heads.mp slash)]
    exact same
  · rw [if_neg slash, if_neg fun first => slash (heads.mpr first)]
    exact isNamed_append (isNamed_self [47]) same

/-! ## Searches on a path and on its start -/

theorem isUtf8Tail_toLowerCase (octet : UInt8) :
    isUtf8Tail (toLowerCase octet) = isUtf8Tail octet := by
  unfold toLowerCase
  split
  · rename_i upper
    simp only [UInt8.le_iff_toNat_le] at upper
    simp at upper
    have left : isUtf8Tail (octet - 65 + 97) = false := by
      simp only [isUtf8Tail, Bool.and_eq_false_iff, decide_eq_false_iff_not,
        UInt8.le_iff_toNat_le, UInt8.toNat_add, UInt8.toNat_sub]
      simp
      omega
    have right : isUtf8Tail octet = false := by
      simp only [isUtf8Tail, Bool.and_eq_false_iff, decide_eq_false_iff_not, UInt8.le_iff_toNat_le]
      simp
      omega
    rw [left, right]
  · rfl

/-- Inside the start of a text the character boundaries are those of any text
that spells it. -/
theorem isCharBoundary_of_named {path text : Bytes} {index : Nat}
    (starts : isNamed (path.take text.length) text = true)
    (inside : index < text.length) :
    isCharBoundary path index = isCharBoundary text index := by
  have folded := congrArg (·[index]?) (isNamed_iff.mp starts)
  simp only [getElem?_map, getElem?_take_of_lt inside,
    getElem?_eq_getElem inside, Option.map_some] at folded
  obtain ⟨octet, found, same⟩ := Option.map_eq_some_iff.mp folded
  unfold isCharBoundary
  rw [found, getElem?_eq_getElem inside]
  dsimp only
  rw [← isUtf8Tail_toLowerCase octet, same, isUtf8Tail_toLowerCase]

theorem isCharBoundary_end (text : Bytes) : isCharBoundary text text.length = true := by
  simp [isCharBoundary]

theorem StopsAt.of_start {path text location : Bytes} (fits : text.length ≤ path.length)
    (starts : isNamed (path.take text.length) text = true)
    (stops : StopsAt text location) : StopsAt path location := by
  obtain ⟨shorter, cut | named⟩ := stops
  · refine ⟨by omega, Or.inl ?_⟩
    have inside : location.length < text.length := by
      rcases Nat.lt_or_eq_of_le shorter with below | equal
      · exact below
      · rw [equal, isCharBoundary_end] at cut
        contradiction
    rw [isCharBoundary_of_named starts inside]
    exact cut
  · refine ⟨by omega, Or.inr ?_⟩
    have start := isNamed_take location.length starts
    rw [take_take, Nat.min_eq_left shorter] at start
    exact isNamed_trans start named

/-! ## Closed locations -/

/-- Every location the search can end at has an empty path or one that ends in
a slash. -/
def ClosedLocations (locations : List ProxyPassLocationConfig) : Prop :=
  ∀ before location after, locations = before ++ location :: after →
    (∀ earlier ∈ before, ¬ StopsAt (asBytes location.path) (asBytes earlier.path)) →
    location.path = [] ∨ location.path.getLast? = some '/'

theorem ne_nil_of_isNamed (same : isNamed left right = true) (nonempty : right ≠ []) :
    left ≠ [] := by
  rintro rfl
  apply nonempty
  apply length_eq_zero_iff.mp
  exact (isNamed_length same).symm

variable {path : Str}

theorem not_continues_root (nonempty : path ≠ []) (closed : path.getLast? ≠ some '/') :
    ¬ Continues [47] (asBytes path) := by
  rintro ⟨head, tail, joined, same, _⟩
  have headNonempty := ne_nil_of_isNamed same (asBytes_ne_nil nonempty)
  obtain ⟨octet, rest, rfl⟩ := exists_cons_of_ne_nil headNonempty
  simp only [cons_append, List.cons.injEq, nil_eq, append_eq_nil_iff] at joined
  obtain ⟨rfl, rfl, _⟩ := joined
  have lengths := isNamed_length same
  obtain ⟨only, whole⟩ := length_eq_one_iff.mp lengths.symm
  have folded := isNamed_iff.mp same
  rw [whole] at folded
  simp only [map_cons, map_nil, List.cons.injEq, and_true] at folded
  have slash : only = 47 := toLowerCase_eq_slash folded.symm
  apply closed
  rw [asBytes_injective (show asBytes path = asBytes ['/'] by
    rw [whole, slash]; rfl)]
  rfl

/-- A request that resolves to a closed location continues the path of that
location. -/
theorem continues_of_closed {locationPath : Str}
    (starts : isNamed ((asBytes path).take (asBytes locationPath).length)
      (asBytes locationPath) = true)
    (slash : locationPath.getLast? = some '/')
    (deeper : trimEndMatches locationPath '/' ≠ []) :
    Continues (asBytes (asPath path)) (asBytes (normalizeResourcePath locationPath)) := by
  obtain ⟨count, joined⟩ := exists_slashes locationPath
  have octets : asBytes locationPath =
      asBytes (trimEndMatches locationPath '/') ++
        replicate count 47 := by
    rw [← asBytes_replicate_slash, ← asBytes_append, ← joined]
  have split := (take_append_drop (asBytes locationPath).length (asBytes path)).symm
  generalize (asBytes path).drop (asBytes locationPath).length = rest at split
  generalize (asBytes path).take (asBytes locationPath).length = start
    at split starts
  rw [octets] at starts
  obtain ⟨head, slashes, rfl, sameHead, sameSlashes⟩ := isNamed_split starts
  have headNonempty := ne_nil_of_isNamed sameHead (asBytes_ne_nil deeper)
  rw [asBytes_asPath, split, append_assoc,
    asPathBytes_append _ headNonempty, normalizeResourcePath_eq,
    if_neg deeper, asBytes_asPath]
  refine ⟨_, _, rfl, isNamed_asPathBytes sameHead, Or.inr ?_⟩
  cases count with
  | zero =>
    rw [replicate_zero, append_nil] at joined
    rw [joined, getLast?_eq_some_getLast deeper] at slash
    exact absurd (Option.some.inj slash) (trimEndMatches_getLast deeper)
  | succ count =>
    have folded := isNamed_iff.mp sameSlashes
    cases slashes with
    | nil => simp [replicate_succ] at folded
    | cons octet slashes =>
      simp only [replicate_succ, map_cons, List.cons.injEq] at folded
      have same : octet = 47 := toLowerCase_eq_slash folded.1
      simp [same]

theorem normalizeResourcePath_ne_nil (path : Str) : normalizeResourcePath path ≠ [] := by
  rw [normalizeResourcePath_eq]
  split
  · simp
  rename_i deeper
  unfold asPath
  split
  · exact deeper
  · simp

theorem isCharBoundary_letters (text : Bytes) {count index : Nat}
    (behind : text.length ≤ index) (inside : index ≤ text.length + count) :
    isCharBoundary (text ++ replicate count 120) index = true := by
  unfold isCharBoundary
  rw [getElem?_append_right behind, getElem?_replicate]
  by_cases letter : index - text.length < count
  · rw [if_pos letter]
    simp [isUtf8Tail]
  · rw [if_neg letter]
    simp only [length_append, length_replicate, beq_iff_eq]
    omega

theorem eq_or_mem_of_first {α : Type} {Ends : α → Prop}
    {before after before' after' : List α} {known first : α}
    (split : before ++ known :: after = before' ++ first :: after')
    (ends : Ends known) (passed : ∀ item ∈ before', ¬ Ends item) :
    first = known ∨ first ∈ before := by
  rcases append_eq_append_iff.mp split with
    ⟨more, longer, rest⟩ | ⟨more, longer, rest⟩
  · cases more with
    | nil =>
      rw [nil_append, List.cons.injEq] at rest
      exact Or.inl rest.1.symm
    | cons item more =>
      rw [cons_append, List.cons.injEq] at rest
      rw [longer, ← rest.1] at passed
      exact absurd ends (passed known (by simp))
  · cases more with
    | nil =>
      rw [nil_append, List.cons.injEq] at rest
      exact Or.inl rest.1
    | cons item more =>
      rw [cons_append, List.cons.injEq] at rest
      rw [longer, rest.1]
      exact Or.inr (by simp)

theorem findLocationIn_letters {before after : List ProxyPassLocationConfig}
    {location : ProxyPassLocationConfig} (count : Nat)
    (reached : ∀ earlier ∈ before, ¬ StopsAt (asBytes location.path) (asBytes earlier.path)) :
    ∃ found ∈ before ++ location :: after,
      findLocationIn (asBytes location.path ++ replicate count 120)
          (before ++ location :: after) = .ret (some found) ∧
        (asBytes location.path).length ≤ (asBytes found.path).length ∧
        isNamed ((asBytes location.path ++ replicate count 120).take
          (asBytes found.path).length) (asBytes found.path) = true := by
  have starts : isNamed ((asBytes location.path ++
      replicate count 120).take (asBytes location.path).length)
        (asBytes location.path) = true := by
    rw [take_left]
    exact isNamed_self _
  have fits : (asBytes location.path).length ≤
      (asBytes location.path ++ replicate count 120).length := by
    simp
  have self : StopsAt (asBytes location.path ++ replicate count 120)
      (asBytes location.path) := ⟨fits, Or.inr starts⟩
  -- An earlier location that ends this search is longer than the one extended.
  have longer : ∀ earlier ∈ before,
      StopsAt (asBytes location.path ++ replicate count 120) (asBytes earlier.path) →
      (asBytes location.path).length ≤ (asBytes earlier.path).length := by
    intro earlier member ⟨_, stops⟩
    by_contra shorter
    apply reached earlier member
    refine ⟨by omega, ?_⟩
    rcases stops with cut | named
    · left
      rw [← isCharBoundary_of_named starts (by omega)]
      exact cut
    · right
      rw [take_append_of_le_length (by omega)] at named
      exact named
  have search := findLocationIn_search (asBytes location.path ++ replicate count 120)
    (before ++ location :: after)
  generalize findLocationIn (asBytes location.path ++
    replicate count 120) (before ++ location :: after) = result at search
  cases search with
  | absent passed => exact absurd self (passed location (by simp))
  | cut split passed within inside =>
    exfalso
    have wide := within
    rw [length_append, length_replicate] at wide
    rcases eq_or_mem_of_first split self passed with rfl | member
    · rw [isCharBoundary_letters _ (Nat.le_refl _) (by omega)] at inside
      contradiction
    · have enough := longer _ member ⟨within, Or.inl inside⟩
      rw [isCharBoundary_letters _ enough (by omega)] at inside
      contradiction
  | @found before' after' found split passed within named =>
    refine ⟨found, by rw [split]; simp, rfl, ?_, named⟩
    rcases eq_or_mem_of_first split self passed with rfl | member
    · exact Nat.le_refl _
    · exact longer _ member ⟨within, Or.inr named⟩

theorem getLast?_asPath (nonempty : path ≠ []) :
    (asPath path).getLast? = path.getLast? := by
  unfold asPath
  split
  · rfl
  · exact getLast?_cons_of_ne_nil nonempty

theorem asPath_head? (path : Str) : (asPath path).head? = some '/' := by
  unfold asPath
  split
  · assumption
  · rfl

theorem asBytes_getLast?_slash (slash : text.getLast? = some '/') :
    (asBytes text).getLast? = some 47 := by
  obtain ⟨front, rfl⟩ := getLast?_eq_some_iff.mp slash
  rw [asBytes_append]
  exact getLast?_concat ..

theorem named_getLast?_slash (same : isNamed left right = true) (slash : right.getLast? = some 47) :
    left.getLast? = some 47 := by
  have folded := congrArg getLast? (isNamed_iff.mp same)
  rw [getLast?_map, getLast?_map, slash, Option.map_some] at folded
  obtain ⟨octet, last, lower⟩ := Option.map_eq_some_iff.mp folded
  rw [last, toLowerCase_eq_slash lower]

theorem getLast?_of_letters {text : Bytes} {count length : Nat}
    (slash : ((text ++ replicate count 120).take length).getLast? =
      some 47) (longer : text.length ≤ length) :
    text.getLast? = some 47 := by
  rw [take_append, take_of_length_le longer, take_replicate] at slash
  cases letters : min (length - text.length) count with
  | zero => simpa [letters] using slash
  | succ more =>
    rw [letters, replicate_succ', ← append_assoc, getLast?_concat] at slash
    exact absurd (Option.some.inj slash) (by decide)

theorem asBytes_letters (count : Nat) :
    asBytes (replicate count 'x') = replicate count 120 := by
  induction count with
  | zero => rfl
  | succ count ih =>
    rw [replicate_succ, replicate_succ, asBytes_cons, ih]
    rfl

/-! ## Soundness of the audience -/

section

variable [Base64] [Sha256] [SerdeJson]

/-- Whatever a token for `path` opens is that path or lies below it.  Trailing
slashes of the audience do not count, and a request path is read with its
leading slash. -/
def AudienceSound (info : HttpEndpointInfo) : Prop :=
  ∀ (server : OAuthServer) (now : Int) (authorization : Option Str)
    (requestBaseUrl token scope path requestPath : Str),
    bearerToken authorization = .ret (some token) →
    server.signer.verify now token .access =
        some
          { scope
            audience := some (server.baseUrl requestBaseUrl ++ path) } →
    server.gate now info authorization requestBaseUrl requestPath = .ret .allowed →
      Continues (asBytes (asPath requestPath)) (asBytes (trimEndMatches path '/'))

variable {info : HttpEndpointInfo}

theorem OAuthServer.gate_allowed_iff {server : OAuthServer} {now : Int} {authorization : Option Str}
    {requestBaseUrl token scope path requestPath resourcePath : Str}
    (presented : bearerToken authorization = .ret (some token))
    (accepted : server.signer.verify now token .access =
      some
        { scope
          audience := some (server.baseUrl requestBaseUrl ++ path) })
    (resolved : gateResourcePath info requestPath = .ret resourcePath) :
    server.gate now info authorization requestBaseUrl requestPath = .ret .allowed ↔
      trimEndMatches path '/' = [] ∨ (trimEndMatches path '/').head? = some '/' ∧
          Continues (asBytes (if resourcePath = [] then ['/']
            else resourcePath)) (asBytes (trimEndMatches path '/')) := by
  rw [← audienceAllows_iff (server.baseUrl_trimmed requestBaseUrl)]
  unfold gate
  rw [resolved, bind_ret, checkBearer_allowed_iff]
  constructor
  · rintro ⟨other, verified, read, checked, covers⟩
    rw [presented, ret.injEq, Option.some.injEq] at read
    rw [← read, accepted, Option.some.injEq] at checked
    exact covers _ (by rw [← checked])
  · intro covers
    refine ⟨token, _, presented, accepted, ?_⟩
    intro audience same
    cases same
    exact covers

theorem audienceSound_of_closed (closed : ClosedLocations info.locations) :
    AudienceSound info := by
  intro server now authorization requestBaseUrl token scope path requestPath
    presented accepted allowed
  obtain ⟨resourcePath, resolved, _⟩ := bind_eq_ret_iff.mp allowed
  rcases (gate_allowed_iff presented accepted resolved).mp
    allowed with root | ⟨leading, covers⟩
  · rw [root, asBytes_asPath]
    refine ⟨[], asPathBytes (asBytes requestPath), rfl, rfl, Or.inr ?_⟩
    unfold asPathBytes
    split
    · assumption
    · rfl
  have nonempty : trimEndMatches path '/' ≠ [] := by
    intro empty
    simp [empty] at leading
  have trimmed : (trimEndMatches path '/').getLast? ≠ some '/' := by
    rw [getLast?_eq_some_getLast nonempty]
    intro last
    exact trimEndMatches_getLast nonempty (Option.some.inj last)
  -- The root as resource path is covered by the root alone.
  have notRoot : resourcePath ≠ ['/'] := by
    rintro rfl
    exact not_continues_root nonempty trimmed covers
  have search := findLocationIn_search (asBytes requestPath) info.locations
  simp only [gateResourcePath, findLocation, bind_eq_ret_iff]
    at resolved
  obtain ⟨found, result, resolved⟩ := resolved
  rw [result] at search
  have deeperOf : ∀ {text : Str}, resourcePath = normalizeResourcePath text →
      trimEndMatches text '/' ≠ [] := by
    intro text same empty
    apply notRoot
    rw [same, normalizeResourcePath_eq, if_pos empty]
  cases search with
  | absent passed =>
    have same : resourcePath = normalizeResourcePath requestPath := (ret.inj resolved).symm
    rw [same, if_neg (normalizeResourcePath_ne_nil requestPath)] at covers
    exact (continues_normalizeResourcePath (deeperOf same)).trans covers
  | @found before after location split passed fits starts =>
    have same : resourcePath = normalizeResourcePath location.path :=
      (ret.inj resolved).symm
    rw [same, if_neg (normalizeResourcePath_ne_nil location.path)] at covers
    have deeper := deeperOf same
    have reached : ∀ earlier ∈ before, ¬ StopsAt (asBytes location.path) (asBytes earlier.path) :=
      fun earlier member stops =>
        passed earlier member (stops.of_start fits starts)
    rcases closed before location after split reached with empty | slash
    · rw [empty] at deeper
      exact absurd rfl deeper
    · exact (continues_of_closed starts slash deeper).trans covers

/-! ## An open location -/

/-- There is a server that has handed out a token for a path of its own. -/
theorem exists_token (requestBaseUrl path : Str) :
    ∃ (server : OAuthServer) (token : Str),
      bearerToken (some ("Bearer ".toList ++ token)) = .ret (some token) ∧
        server.signer.verify 0 token .access =
          some
            { scope := []
              audience := some (server.baseUrl requestBaseUrl ++ path) } := by
  let server := new { clientId := [], clientSecret := [], consentPassword := [] } []
  obtain ⟨bytes, _, minted⟩ := server.signer.mint_eq_ok 0 .access []
    (some (server.baseUrl requestBaseUrl ++ path)) 1
  refine ⟨server, _, ?_, TokenSigner.verify_mint rfl minted (by decide)⟩
  apply bearerToken_bearer
  · simp
  · intro symbol member
    exact isTokenSymbol_token member

/-- A token for an open location also opens paths that only begin like it. -/
theorem not_audienceSound_of_open {found : ProxyPassLocationConfig}
    {requestPath : Str} {octet : UInt8} {rest : Bytes}
    (search : info.findLocation (asBytes requestPath) = .ret (some found))
    (nonempty : found.path ≠ []) (opened : found.path.getLast? ≠ some '/')
    (starts : isNamed ((asBytes requestPath).take (asBytes found.path).length)
      (asBytes found.path) = true)
    (goesOn : (asBytes requestPath).drop (asBytes found.path).length =
      octet :: rest) (noSlash : octet ≠ 47) :
    ¬ AudienceSound info := by
  intro sound
  have trimmed : trimEndMatches (asPath found.path) '/' = asPath found.path :=
    trimEndMatches_eq_self (by rw [getLast?_asPath nonempty]; exact opened)
  have normal : normalizeResourcePath found.path = asPath found.path := by
    rw [normalizeResourcePath_eq, trimEndMatches_eq_self opened, if_neg nonempty]
  have resolved : gateResourcePath info requestPath = .ret (asPath found.path) := by
    simp [gateResourcePath, search, normal]
  obtain ⟨server, token, presented, accepted⟩ := exists_token [] (asPath found.path)
  have allowed := (gate_allowed_iff presented accepted
    resolved).mpr (Or.inr ⟨by rw [trimmed]; exact asPath_head? _, by
      have named := normalizeResourcePath_ne_nil found.path
      rw [normal] at named
      rw [trimmed, if_neg named]
      exact Continues.self _⟩)
  obtain ⟨head, tail, joined, same, next⟩ :=
    sound server 0 _ [] token [] _ requestPath presented accepted allowed
  rw [trimmed] at same
  -- Both splits cut the request path behind the path of the location.
  have headNonempty := ne_nil_of_isNamed starts (asBytes_ne_nil nonempty)
  have split := (take_append_drop (asBytes found.path).length (asBytes requestPath)).symm
  rw [goesOn] at split
  rw [asBytes_asPath, split, asPathBytes_append _ headNonempty] at joined
  rw [asBytes_asPath] at same
  have lengths : (asPathBytes ((asBytes requestPath).take
      (asBytes found.path).length)).length = head.length := by
    rw [isNamed_length (isNamed_asPathBytes starts), isNamed_length same]
  obtain ⟨_, tail_eq⟩ := append_inj joined lengths
  rw [← tail_eq] at next
  rcases next with empty | slash
  · contradiction
  · exact noSlash (Option.some.inj slash)

theorem closed_of_audienceSound (sound : AudienceSound info) :
    ClosedLocations info.locations := by
  intro before location after split reached
  by_contra open_
  rw [not_or] at open_
  obtain ⟨nonempty, opened⟩ := open_
  -- A request path longer than every location path.
  let total := (info.locations.map fun location =>
    (asBytes location.path).length).sum
  obtain ⟨found, member, search, longer, starts⟩ : ∃ found ∈ before ++ location :: after, _ :=
    findLocationIn_letters (total + 1) reached
  have short : (asBytes found.path).length ≤ total := by
    apply single_le_sum (by simp)
    rw [split]
    exact mem_map.mpr ⟨found, member, rfl⟩
  have octets : asBytes (location.path ++ replicate (total + 1) 'x') =
      asBytes location.path ++ replicate (total + 1) 120 := by
    rw [asBytes_append, asBytes_letters]
  have goesOn : (asBytes location.path ++ replicate (total + 1) 120).drop
      (asBytes found.path).length = 120 :: replicate (total - ((asBytes found.path).length -
          (asBytes location.path).length)) 120 := by
    rw [drop_append, drop_eq_nil_of_le longer, nil_append,
      drop_replicate, ← replicate_succ]
    congr 1
    omega
  have foundNonempty : found.path ≠ [] := by
    intro empty
    rw [empty] at longer
    exact asBytes_ne_nil nonempty (length_eq_zero_iff.mp (Nat.le_zero.mp longer))
  have foundOpen : found.path.getLast? ≠ some '/' := by
    intro slash
    apply opened
    apply getLast?_asBytes_slash
    exact getLast?_of_letters (named_getLast?_slash starts (asBytes_getLast?_slash slash)) longer
  rw [← octets] at search starts goesOn
  rw [← split] at search
  exact not_audienceSound_of_open search foundNonempty foundOpen starts goesOn (by decide) sound

/-- The audience check of an endpoint is sound exactly if its locations are
closed. -/
theorem audienceSound_iff_closedLocations (info : HttpEndpointInfo) :
    AudienceSound info ↔ ClosedLocations info.locations :=
  ⟨closed_of_audienceSound, audienceSound_of_closed⟩

end

/-! ## Two resources with a common beginning -/

section

attribute [local instance] letters sumDigest plainSerde

private def risksServer : OAuthServer :=
  .new { clientId := ['c'], clientSecret := ['s'], consentPassword := ['p'] } [7]

/-- One open location. -/
private def risksEndpoint : HttpEndpointInfo :=
  { hostEndpoint := { src := "h:443".toList, port := some 443, index := some 1 }
    listenEndpointType := .mcp
    locations := [{ path := "/mt-risks".toList, proxyPassTo := .drop }] }

private def risksToken : Str :=
  let body := TokenSigner.body (writeText ['a'] ++ (writeInt 9 ++
    (writeText "mcp".toList ++ 1 :: writeText "https://h/mt-risks".toList)))
  body ++ ['.'] ++ lettersEncode (risksServer.signer.tag body)

/-- A token for `/mt-risks` opens `/mt-risks-admin`. -/
theorem token_opens_sibling_path :
    risksServer.signer.verify 0 risksToken .access =
        some
          { scope := "mcp".toList
            audience := some (risksServer.baseUrl "https://h".toList ++ "/mt-risks".toList) } ∧
      risksServer.gate 0 risksEndpoint (some ("Bearer ".toList ++ risksToken)) "https://h".toList
          "/mt-risks-admin".toList = .ret .allowed ∧
      ¬ Continues (asBytes (asPath "/mt-risks-admin".toList))
        (asBytes (trimEndMatches "/mt-risks".toList '/')) := by
  have presented : bearerToken (some ("Bearer ".toList ++ risksToken)) =
      .ret (some risksToken) := by decide +kernel
  have accepted : risksServer.signer.verify 0 risksToken .access =
      some
        { scope := "mcp".toList
          audience := some (risksServer.baseUrl "https://h".toList ++
            "/mt-risks".toList) } := by decide +kernel
  have resolved : gateResourcePath risksEndpoint "/mt-risks-admin".toList =
      .ret "/mt-risks".toList := by decide +kernel
  have covers : continuesPath "/mt-risks".toList "/mt-risks".toList = true := by
    decide +kernel
  refine ⟨accepted, ?_, ?_⟩
  · apply (gate_allowed_iff presented accepted resolved).mpr
    exact Or.inr ⟨by decide +kernel, continuesPath_iff.mp covers⟩
  · rw [← continuesPath_iff]
    decide +kernel

end

end ReverseProxy
