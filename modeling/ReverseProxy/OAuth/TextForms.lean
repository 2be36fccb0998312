import ReverseProxy.Configurations.TextSlices
import ReverseProxy.OAuth.HandleOauthRequest

/-!
# Paths and credentials of the OAuth server

The router and the readers of `Authorization` slice a text at the length of a
fixed one.  Where the slice ends between two characters they accept exactly the
forms they are meant for; inside a character they panic.
-/

namespace ReverseProxy

open HttpEndpointInfo Outcome

/-! ## A fixed start and what follows -/

/-- `path` is `base` in some ASCII case, followed by nothing or by further
segments. -/
def ExtendsPath (path base suffix : Str) : Prop :=
  ∃ front, path = front ++ suffix ∧ eqIgnoreAsciiCase front base = true ∧
    (suffix = [] ∨ suffix.head? = some '/')

theorem ExtendsPath.starts {path base suffix : Str} (extending : ExtendsPath path base suffix) :
    startsIgnoreAsciiCase path base = true := by
  obtain ⟨front, split, same, _⟩ := extending
  exact startsIgnoreAsciiCase_iff.mpr ⟨front, suffix, split, same⟩

section

variable {path start : Str}

theorem matchesWithSuffix_cuts (cuts : CutsCharacter path (asBytes start).length) :
    matchesWithSuffix path start = .panic := by
  obtain ⟨fits, inside⟩ := cutsCharacter_iff.mp cuts
  simp [matchesWithSuffix, Nat.not_lt.mpr fits, inside]

theorem matchesWithSuffix_extends {suffix : Str} (extending : ExtendsPath path start suffix) :
    matchesWithSuffix path start = .ret (some suffix) := by
  have starts := extending.starts
  obtain ⟨fits, named⟩ := named_slice_iff.mpr starts
  have between := isCharBoundary_of_not_cuts (not_cuts_of_starts starts) fits
  obtain ⟨front, rfl, same, next⟩ := extending
  simp [matchesWithSuffix, Nat.not_lt.mpr fits, between, named,
    drop_of_starts same, fromUtf8_asBytes, next]

theorem matchesWithSuffix_other (between : ¬ CutsCharacter path (asBytes start).length)
    (other : ∀ suffix, ¬ ExtendsPath path start suffix) :
    matchesWithSuffix path start = .ret none := by
  by_cases short : (asBytes path).length < (asBytes start).length
  · simp [matchesWithSuffix, short]
  have boundary := isCharBoundary_of_not_cuts between (Nat.not_lt.mp short)
  by_cases starts : startsIgnoreAsciiCase path start = true
  · obtain ⟨fits, named⟩ := named_slice_iff.mpr starts
    obtain ⟨front, suffix, rfl, same⟩ := startsIgnoreAsciiCase_iff.mp starts
    have next : ¬ (suffix = [] ∨ suffix.head? = some '/') :=
      fun next => other suffix ⟨front, rfl, same, next⟩
    simp [matchesWithSuffix, short, boundary, named, drop_of_starts same, fromUtf8_asBytes, next]
  have differs : ¬ isNamed ((asBytes path).take (asBytes start).length)
      (asBytes start) = true :=
    fun named => starts (named_slice_iff.mp ⟨Nat.not_lt.mp short, named⟩)
  simp [matchesWithSuffix, short, boundary, differs]

end

/-! ## Routes -/

/-- What the server answers itself. -/
inductive OAuthEndpoint where
  | authorize
  | token
  | authorizationServer
  | openidConfiguration
  | protectedResource
  deriving DecidableEq

namespace OAuthEndpoint

def path : OAuthEndpoint → Str
  | authorize => "/oauth/authorize".toList
  | token => "/oauth/token".toList
  | authorizationServer => "/.well-known/oauth-authorization-server".toList
  | openidConfiguration => "/.well-known/openid-configuration".toList
  | protectedResource => "/.well-known/oauth-protected-resource".toList

/-- Metadata documents are also served below their path. -/
def isDocument : OAuthEndpoint → Bool
  | authorize => false
  | token => false
  | _ => true

def route (suffix : Str) : OAuthEndpoint → OAuthRoute
  | authorize => .authorize
  | token => .token
  | authorizationServer => .authorizationServerMetadata
  | openidConfiguration => .authorizationServerMetadata
  | protectedResource =>
    .protectedResourceMetadata (normalizeResourcePath suffix)

theorem path_ascii (endpoint : OAuthEndpoint) : ∀ symbol ∈ endpoint.path, symbol.toNat < 128 := by
  cases endpoint with
  | authorize | token | authorizationServer | openidConfiguration
  | protectedResource => exact List.all_iff_forall_prop.mp (by decide)

theorem eq_of_starts {first second : OAuthEndpoint}
    (starts : startsIgnoreAsciiCase first.path second.path = true ∨
      startsIgnoreAsciiCase second.path first.path = true) :
    first = second := by
  revert starts
  cases first with
  | authorize | token | authorizationServer | openidConfiguration
  | protectedResource =>
    cases second with
    | authorize | token | authorizationServer | openidConfiguration
    | protectedResource => decide

end OAuthEndpoint

/-- `path` is one of the paths of the server in some ASCII case, or a further
segment below a metadata document. -/
inductive OAuthPath (path : Str) : OAuthRoute → Prop where
  | mk {endpoint : OAuthEndpoint} {suffix : Str} (extending : ExtendsPath path endpoint.path suffix)
      (whole : endpoint.isDocument = false → suffix = []) :
      OAuthPath path (endpoint.route suffix)

theorem OAuthPath.unique {path : Str} {first second : OAuthRoute}
    (isFirst : OAuthPath path first) (isSecond : OAuthPath path second) :
    first = second := by
  obtain ⟨extending, _⟩ := isFirst
  obtain ⟨other, _⟩ := isSecond
  have same := OAuthEndpoint.eq_of_starts (starts_comparable extending.starts other.starts)
  subst same
  obtain ⟨front, split, sameFront, _⟩ := extending
  obtain ⟨otherFront, otherSplit, sameOther, _⟩ := other
  have lengths : front.length = otherFront.length := by
    rw [eqIgnoreAsciiCase_length sameFront, eqIgnoreAsciiCase_length sameOther]
  rw [split] at otherSplit
  obtain ⟨_, rfl⟩ := List.append_inj otherSplit lengths
  rfl

/-- The router returns, and claims exactly these paths. -/
def RoutesExactly (path : Str) : Prop := ∃ result, routeOauthPath path = .ret result ∧
    ∀ route, result = some route ↔ OAuthPath path route

theorem RoutesExactly.of_route {path : Str} {route : OAuthRoute}
    (routed : routeOauthPath path = .ret (some route))
    (isPath : OAuthPath path route) : RoutesExactly path := by
  refine ⟨_, routed, ?_⟩
  intro other
  constructor
  · rintro ⟨⟩
    exact isPath
  · intro isOther
    rw [isPath.unique isOther]

theorem extendsPath_nil_iff {path base : Str} :
    ExtendsPath path base [] ↔ eqIgnoreAsciiCase path base = true := by
  simp [ExtendsPath]

namespace OAuthEndpoint

theorem path_octets (endpoint : OAuthEndpoint) :
    (asBytes endpoint.path).length = endpoint.path.length := by
  rw [asBytes_of_ascii endpoint.path_ascii, List.length_map]

variable {endpoint : OAuthEndpoint} (other : OAuthEndpoint)

theorem not_cuts_of_extends {path suffix : Str} (extending : ExtendsPath path endpoint.path suffix)
    (shorter : other.path.length ≤ endpoint.path.length) :
    ¬ CutsCharacter path (asBytes other.path).length := by
  rw [other.path_octets]
  exact not_cuts_inside extending.starts endpoint.path_ascii shorter

theorem not_cuts_of_whole {path : Str} (whole : eqIgnoreAsciiCase path endpoint.path = true)
    (longer : endpoint.path.length < other.path.length) :
    ¬ CutsCharacter path (asBytes other.path).length := by
  rintro ⟨fits, _⟩
  rw [← isNamed_asBytes] at whole
  rw [isNamed_length whole, path_octets, path_octets] at fits
  omega

end OAuthEndpoint

/-- No slice of the router ends inside a character. -/
def RouterSlicesWhole (path : Str) : Prop := ¬ CutsCharacter path
      (asBytes OAuthEndpoint.authorizationServer.path).length ∧
    ¬ CutsCharacter path (asBytes OAuthEndpoint.openidConfiguration.path).length ∧
    ((∃ suffix, ExtendsPath path OAuthEndpoint.openidConfiguration.path suffix) ∨
      ¬ CutsCharacter path (asBytes OAuthEndpoint.protectedResource.path).length)

section

variable {path : Str}

theorem routeOauthPath_of_whole (authorize : ¬ eqIgnoreAsciiCase path
      OAuthEndpoint.authorize.path = true)
    (token : ¬ eqIgnoreAsciiCase path OAuthEndpoint.token.path = true) :
    routeOauthPath path = (do
      let server ← matchesWithSuffix path OAuthEndpoint.authorizationServer.path
      if server.isSome then return some .authorizationServerMetadata
      else
        let openid ← matchesWithSuffix path OAuthEndpoint.openidConfiguration.path
        if openid.isSome then return some .authorizationServerMetadata
        else
          let suffix ← matchesWithSuffix path OAuthEndpoint.protectedResource.path
          return suffix.map fun suffix =>
            .protectedResourceMetadata (normalizeResourcePath suffix)) :=
  (if_neg authorize).trans (if_neg token)

theorem routesExactly_of_slices (whole : RouterSlicesWhole path) :
    RoutesExactly path := by
  obtain ⟨serverCut, openidCut, resourceCut⟩ := whole
  by_cases authorize : eqIgnoreAsciiCase path OAuthEndpoint.authorize.path = true
  · apply RoutesExactly.of_route (if_pos authorize)
    exact .mk (extendsPath_nil_iff.mpr authorize) fun _ => rfl
  by_cases token : eqIgnoreAsciiCase path OAuthEndpoint.token.path = true
  · apply RoutesExactly.of_route ((if_neg authorize).trans (if_pos token))
    exact .mk (extendsPath_nil_iff.mpr token) fun _ => rfl
  have routed := routeOauthPath_of_whole authorize token
  by_cases server : ∃ suffix, ExtendsPath path OAuthEndpoint.authorizationServer.path suffix
  · obtain ⟨suffix, extending⟩ := server
    rw [matchesWithSuffix_extends extending] at routed
    exact RoutesExactly.of_route routed (.mk extending nofun)
  rw [matchesWithSuffix_other serverCut (not_exists.mp server)] at routed
  by_cases openid : ∃ suffix, ExtendsPath path OAuthEndpoint.openidConfiguration.path suffix
  · obtain ⟨suffix, extending⟩ := openid
    rw [matchesWithSuffix_extends extending] at routed
    exact RoutesExactly.of_route routed (.mk extending nofun)
  rw [matchesWithSuffix_other openidCut (not_exists.mp openid)] at routed
  by_cases resource : ∃ suffix, ExtendsPath path OAuthEndpoint.protectedResource.path suffix
  · obtain ⟨suffix, extending⟩ := resource
    rw [matchesWithSuffix_extends extending] at routed
    exact RoutesExactly.of_route routed (.mk extending nofun)
  rw [matchesWithSuffix_other (resourceCut.resolve_left openid) (not_exists.mp resource)] at routed
  refine ⟨none, routed, ?_⟩
  intro route
  constructor
  · rintro ⟨⟩
  · rintro ⟨extending, whole⟩
    rename_i endpoint suffix
    cases endpoint with
    | authorize =>
      rw [whole rfl] at extending
      exact absurd (extendsPath_nil_iff.mp extending) authorize
    | token =>
      rw [whole rfl] at extending
      exact absurd (extendsPath_nil_iff.mp extending) token
    | authorizationServer => exact absurd ⟨_, extending⟩ server
    | openidConfiguration => exact absurd ⟨_, extending⟩ openid
    | protectedResource => exact absurd ⟨_, extending⟩ resource

theorem slices_of_endpoint {endpoint : OAuthEndpoint}
    (whole : eqIgnoreAsciiCase path endpoint.path = true)
    (short : endpoint.path.length < 33) : RouterSlicesWhole path := by
  refine ⟨?_, ?_, Or.inr ?_⟩
  · exact OAuthEndpoint.not_cuts_of_whole .authorizationServer whole
      (Nat.lt_trans short (by decide))
  · exact OAuthEndpoint.not_cuts_of_whole .openidConfiguration whole short
  · exact OAuthEndpoint.not_cuts_of_whole .protectedResource whole (Nat.lt_trans short (by decide))

theorem slices_of_returns {result : Option OAuthRoute}
    (returns : routeOauthPath path = .ret result) :
    RouterSlicesWhole path := by
  by_cases authorize : eqIgnoreAsciiCase path OAuthEndpoint.authorize.path = true
  · exact slices_of_endpoint authorize (by decide)
  by_cases token : eqIgnoreAsciiCase path OAuthEndpoint.token.path = true
  · exact slices_of_endpoint token (by decide)
  rw [routeOauthPath_of_whole authorize token] at returns
  have serverCut : ¬ CutsCharacter path
      (asBytes OAuthEndpoint.authorizationServer.path).length := by
    intro cuts
    rw [matchesWithSuffix_cuts cuts] at returns
    cases returns
  by_cases server : ∃ suffix, ExtendsPath path OAuthEndpoint.authorizationServer.path suffix
  · obtain ⟨suffix, extending⟩ := server
    refine ⟨serverCut, ?_, Or.inr ?_⟩
    all_goals exact OAuthEndpoint.not_cuts_of_extends _ extending (by decide)
  rw [matchesWithSuffix_other serverCut (not_exists.mp server)] at returns
  have openidCut : ¬ CutsCharacter path
      (asBytes OAuthEndpoint.openidConfiguration.path).length := by
    intro cuts
    rw [matchesWithSuffix_cuts cuts] at returns
    cases returns
  refine ⟨serverCut, openidCut, ?_⟩
  by_cases openid : ∃ suffix, ExtendsPath path OAuthEndpoint.openidConfiguration.path suffix
  · exact Or.inl openid
  rw [matchesWithSuffix_other openidCut (not_exists.mp openid)] at returns
  refine Or.inr ?_
  intro cuts
  rw [matchesWithSuffix_cuts cuts] at returns
  cases returns

theorem routesExactly_iff : RoutesExactly path ↔ RouterSlicesWhole path := by
  constructor
  · rintro ⟨result, returns, _⟩
    exact slices_of_returns returns
  · exact routesExactly_of_slices

end

/-! ## Credentials -/

/-- The value is the scheme in some ASCII case and something behind it. -/
def FollowsScheme (scheme : String) (authorization rest : Str) : Prop :=
  ∃ front, trim authorization = front ++ rest ∧
    eqIgnoreAsciiCase front scheme.toList = true ∧ rest ≠ []

section

variable {scheme : String} {authorization : Str}

theorem afterScheme_cuts (cuts : CutsCharacter (trim authorization) (ascii scheme).length) :
    afterScheme scheme authorization = .panic := by
  have longer := cuts.lt_length
  obtain ⟨_, inside⟩ := cutsCharacter_iff.mp cuts
  simp [afterScheme, Nat.not_le.mpr longer, inside]

theorem afterScheme_follows {rest : Str} (plain : ascii scheme = asBytes scheme.toList)
    (follows : FollowsScheme scheme authorization rest) :
    afterScheme scheme authorization = .ret (some (trim rest)) := by
  obtain ⟨front, split, same, nonempty⟩ := follows
  have starts : startsIgnoreAsciiCase (trim authorization) scheme.toList =
      true := startsIgnoreAsciiCase_iff.mpr ⟨front, rest, split, same⟩
  obtain ⟨fits, named⟩ := named_slice_iff.mpr starts
  have between := isCharBoundary_of_not_cuts (not_cuts_of_starts starts) fits
  have dropped : (asBytes (trim authorization)).drop
      (asBytes scheme.toList).length = asBytes rest := by
    rw [split, drop_of_starts same]
  have longer : (asBytes scheme.toList).length < (asBytes (trim authorization)).length := by
    apply lt_of_le_of_ne fits
    intro whole
    rw [whole, List.drop_length] at dropped
    exact asBytes_ne_nil nonempty dropped.symm
  simp [afterScheme, plain, Nat.not_le.mpr longer, between, named, dropped, fromUtf8_asBytes]

theorem afterScheme_other (plain : ascii scheme = asBytes scheme.toList)
    (between : ¬ CutsCharacter (trim authorization) (ascii scheme).length)
    (other : ∀ rest, ¬ FollowsScheme scheme authorization rest) :
    afterScheme scheme authorization = .ret none := by
  rw [plain] at between
  by_cases short : (asBytes (trim authorization)).length ≤ (asBytes scheme.toList).length
  · simp [afterScheme, plain, short]
  have longer := Nat.not_le.mp short
  have boundary := isCharBoundary_of_not_cuts between longer.le
  have differs : ¬ isNamed ((asBytes (trim authorization)).take
      (asBytes scheme.toList).length) (asBytes scheme.toList) = true := by
    intro named
    obtain ⟨front, rest, split, same⟩ := startsIgnoreAsciiCase_iff.mp
      (named_slice_iff.mp ⟨longer.le, named⟩)
    refine other rest ⟨front, split, same, ?_⟩
    rintro rfl
    rw [List.append_nil] at split
    rw [← isNamed_asBytes, ← split] at same
    exact short (isNamed_length same).le
  simp [afterScheme, plain, short, boundary, differs]

/-- The slice behind the scheme is the only way to a panic. -/
theorem afterScheme_returns_iff (plain : ascii scheme = asBytes scheme.toList) :
    (∃ rest, afterScheme scheme authorization = .ret rest) ↔
      ¬ CutsCharacter (trim authorization) (ascii scheme).length := by
  constructor
  · rintro ⟨rest, returns⟩ cuts
    rw [afterScheme_cuts cuts] at returns
    cases returns
  · intro between
    by_cases follows : ∃ rest, FollowsScheme scheme authorization rest
    · obtain ⟨rest, follows⟩ := follows
      exact ⟨_, afterScheme_follows plain follows⟩
    · exact ⟨_, afterScheme_other plain between (not_exists.mp follows)⟩

end

/-! ### Bearer tokens -/

/-- The value is `Bearer` in some ASCII case, a blank and something that is
not empty, with white space around. -/
def BearerValue (authorization : Option Str) (token : Str) : Prop :=
  ∃ value scheme rest, authorization = some value ∧ trim value = scheme ++ ' ' :: rest ∧
    eqIgnoreAsciiCase scheme "Bearer".toList = true ∧ rest ≠ [] ∧
    token = trim rest

theorem toLower_eq_blank {symbol : Char} (blank : symbol.toLower = ' ') : symbol = ' ' := by
  unfold Char.toLower at blank
  split at blank
  · rename_i upper
    have low : 65 ≤ symbol.val.toNat := UInt32.le_iff_toNat_le.mp upper.1
    have high : symbol.val.toNat ≤ 90 := UInt32.le_iff_toNat_le.mp upper.2
    have code : (symbol.val + 32).toNat = 32 := congrArg (fun symbol => symbol.val.toNat) blank
    rw [UInt32.toNat_add] at code
    change (symbol.val.toNat + 32) % 4294967296 = 32 at code
    omega
  · exact blank

theorem followsScheme_bearer_iff {value rest : Str} :
    FollowsScheme "Bearer " value rest ↔ ∃ scheme,
      trim value = scheme ++ ' ' :: rest ∧
        eqIgnoreAsciiCase scheme "Bearer".toList = true ∧ rest ≠ [] := by
  constructor
  · rintro ⟨front, split, same, nonempty⟩
    have folded : front.map Char.toLower =
        "Bearer".toList.map Char.toLower ++ [' '] := beq_iff_eq.mp same
    obtain ⟨scheme, last, rfl, named, blank⟩ := List.map_eq_append_iff.mp folded
    obtain ⟨symbol, rfl, lower⟩ := List.map_eq_singleton_iff.mp blank
    rw [toLower_eq_blank lower] at split
    exact ⟨scheme, by rw [split, List.append_assoc]; rfl, beq_iff_eq.mpr named, nonempty⟩
  · rintro ⟨scheme, split, same, nonempty⟩
    refine ⟨scheme ++ [' '], ?_, ?_, nonempty⟩
    · rw [split, List.append_assoc]
      rfl
    · rw [eqIgnoreAsciiCase, List.map_append, beq_iff_eq.mp same]
      rfl

theorem trim_rest_ne_nil {value front rest : Str}
    (split : trim value = front ++ rest) (nonempty : rest ≠ []) :
    trim rest ≠ [] := by
  apply trim_ne_nil (List.getLast?_eq_some_getLast nonempty)
  have whole : trim value ≠ [] := by simp [split, nonempty]
  have solid := List.rdropWhile_last_not _ _ whole
  have last : (trim value).getLast whole = rest.getLast nonempty := by
    simp only [split]
    exact List.getLast_append_of_ne_nil _ nonempty
  rw [← last]
  exact Bool.eq_false_iff.mpr solid

theorem bearerToken_some (value : Str) :
    bearerToken (some value) = do
      let token ← afterScheme "Bearer " value
      return token.filter (· ≠ []) :=
  rfl

/-- A token is returned exactly for such values. -/
def ReadsBearer (authorization : Option Str) : Prop :=
  ∃ result, bearerToken authorization = .ret result ∧
    ∀ token, result = some token ↔ BearerValue authorization token

theorem bearerValue_iff {value token : Str} :
    BearerValue (some value) token ↔
      ∃ rest, FollowsScheme "Bearer " value rest ∧ token = trim rest := by
  simp only [followsScheme_bearer_iff, BearerValue, Option.some.injEq]
  constructor
  · rintro ⟨_, scheme, rest, rfl, split, same, nonempty, last⟩
    exact ⟨rest, ⟨scheme, split, same, nonempty⟩, last⟩
  · rintro ⟨rest, ⟨scheme, split, same, nonempty⟩, last⟩
    exact ⟨value, scheme, rest, rfl, split, same, nonempty, last⟩

theorem readsBearer_some_iff (value : Str) :
    ReadsBearer (some value) ↔ ¬ CutsCharacter (trim value) 7 := by
  constructor
  · rintro ⟨result, returns, _⟩
    obtain ⟨rest, returned, _⟩ := bind_eq_ret_iff.mp returns
    exact (afterScheme_returns_iff rfl).mp ⟨rest, returned⟩
  · intro between
    unfold ReadsBearer
    rw [bearerToken_some]
    by_cases follows : ∃ rest, FollowsScheme "Bearer " value rest
    · obtain ⟨rest, follows⟩ := follows
      obtain ⟨front, split, same, nonempty⟩ := id follows
      have solid := trim_rest_ne_nil split nonempty
      rw [afterScheme_follows rfl follows]
      refine ⟨some (trim rest), by simp [solid], ?_⟩
      intro token
      rw [bearerValue_iff]
      constructor
      · rintro ⟨⟩
        exact ⟨rest, follows, rfl⟩
      · rintro ⟨other, followsOther, rfl⟩
        rw [← ret.injEq, ← afterScheme_follows rfl follows,
          afterScheme_follows rfl followsOther]
    · rw [afterScheme_other rfl between (not_exists.mp follows)]
      refine ⟨none, rfl, ?_⟩
      intro token
      rw [bearerValue_iff]
      constructor
      · rintro ⟨⟩
      · rintro ⟨rest, isRest, _⟩
        exact absurd ⟨rest, isRest⟩ follows

theorem readsBearer_iff (authorization : Option Str) :
    ReadsBearer authorization ↔
      ∀ value, authorization = some value → ¬ CutsCharacter (trim value) 7 := by
  cases authorization with
  | none =>
    refine ⟨nofun, fun _ => ⟨none, rfl, ?_⟩⟩
    intro token
    simp [BearerValue]
  | some value => simp [readsBearer_some_iff]

/-! ### Client credentials -/

section

variable [Base64]

theorem presentedClient_returns_iff (authorization : Option Str) (parameters : Parameters) :
    (∃ client, presentedClient authorization parameters = .ret client) ↔
      ∀ value, authorization = some value → ¬ CutsCharacter (trim value) 6 := by
  cases authorization with
  | none =>
    refine ⟨fun _ => nofun, fun _ => ?_⟩
    unfold presentedClient
    simp only [bind_ret]
    split
    · exact ⟨_, rfl⟩
    · exact ⟨_, rfl⟩
  | some value =>
    unfold presentedClient
    refine (bind_returns_iff ?_).trans ?_
    · intro basic
      cases basic with
      | some encoded => exact ⟨_, rfl⟩
      | none =>
        dsimp only
        split
        · exact ⟨_, rfl⟩
        · exact ⟨_, rfl⟩
    · rw [afterScheme_returns_iff rfl]
      simp only [Option.some.injEq, forall_eq']
      rfl

end

/-! ## Totality and exactness -/

section

variable [Base64]

theorem oauth_text_is_exact_iff (path : Str) (authorization : Option Str)
    (parameters : Parameters) :
    (RoutesExactly path ∧ ReadsBearer authorization ∧
      ∃ client, presentedClient authorization parameters = .ret client) ↔
    RouterSlicesWhole path ∧ ∀ value, authorization = some value →
        ¬ CutsCharacter (trim value) 7 ∧ ¬ CutsCharacter (trim value) 6 := by
  rw [routesExactly_iff, readsBearer_iff, presentedClient_returns_iff]
  constructor
  · rintro ⟨routes, bearer, basic⟩
    exact ⟨routes, fun value given => ⟨bearer value given, basic value given⟩⟩
  · rintro ⟨routes, values⟩
    exact ⟨routes, fun value given => (values value given).1,
      fun value given => (values value given).2⟩

end


/-- A path whose 39th octet is inside `é`, and a value whose seventh is. -/
theorem oauth_slices_panic :
    routeOauthPath "/.well-known/oauth-authorization-serveé".toList = .panic ∧
      bearerToken (some "Bearerélan".toList) = .panic ∧
      ∀ (_ : Base64) (parameters : Parameters),
        presentedClient (some "Basicé".toList) parameters = .panic := by
  refine ⟨by decide +kernel, by decide +kernel, ?_⟩
  intro base64 parameters
  have panics : afterScheme "Basic " "Basicé".toList = .panic := by
    decide +kernel
  simp only [presentedClient, panics, bind_panic]

end ReverseProxy
