import ReverseProxy.HttpProxyPass.HandleOauth

/-!
# The hyper pipeline

`HttpProxyPass` serves the requests of one connection for one host.  They share
its identity slot.  `send_payload` is given here as one request runs through it
alone.
-/

namespace ReverseProxy

open Outcome

inductive ProxyPassError where
  | noLocationFound
  | unauthorized
  | userIsForbidden
  | ipRestricted (listenHost : Str)
  | dropConnection
  /-- A failure of `into_request`. -/
  | conversion
deriving DecidableEq, Repr

/-- A response the proxy makes by itself. -/
inductive LocalAnswer where
  | oauth (response : OAuthHttpResponse)
  | signIn (result : GoogleAuthResult)

/-- What `send_payload` came to. -/
inductive PayloadResult where
  | answered (answer : LocalAnswer)
  | failed (err : ProxyPassError)
  /-- `send_request` of the location was called, with header values made for
  this identity. -/
  | dispatched (location : ProxyPassLocationConfig) (identity : Option HttpProxyPassIdentity)

/-- `handle_auth_with_g_auth`. -/
inductive GAuthOutcome where
  | passed (user : Option Str)
  | content (result : GoogleAuthResult)
  | domainIsNotAuthorized

structure HttpProxyPass where
  endpointInfo : HttpEndpointInfo
  listenHost : Str
  identity : Option HttpProxyPassIdentity
deriving DecidableEq, Repr

namespace HttpProxyPass

def new (info : HttpEndpointInfo) (listenHost : Str)
    (clientCert : Option ClientCertificateData) : HttpProxyPass :=
  { endpointInfo := info
    listenHost
    identity := clientCert.map .clientCert }

/-- A user who signed in takes the slot over. -/
def store (pass : HttpProxyPass) (user : Option Str) : HttpProxyPass :=
  match user with
  | some email => { pass with identity := some (.googleUser email) }
  | none => pass

/-- The check against the list of allowed users reads the slot. -/
def userAllowed (pass : HttpProxyPass) (lists : AllowedUsersList) : Bool :=
  match pass.endpointInfo.allowedUserListId with
  | none => true
  | some listId =>
    match pass.identity with
    | some identity => lists.isAllowed listId identity.asStr
    | none => false

/-- It decides as the HTTP/1 pipeline does about the identity in the slot. -/
theorem userAllowed_eq (pass : HttpProxyPass) (lists : AllowedUsersList) :
    pass.userAllowed lists =
      pass.endpointInfo.userIsAllowed lists pass.identity := by
  unfold userAllowed HttpEndpointInfo.userIsAllowed
  cases pass.endpointInfo.allowedUserListId with
  | none => rfl
  | some listId =>
    cases pass.identity with
    | none => rfl
    | some identity => rfl

section

variable [StrUtils]

def handleAuthWithGAuth (pass : HttpProxyPass) (app : AppCtx)
    (parts : Parts) : Outcome GAuthOutcome :=
  match pass.endpointInfo.gAuth with
  | none => .ret (.passed none)
  | some settings => do
    match ← app.handleGoogleAuth parts.request settings with
    | .ok (.passed email) => return .passed (some email)
    | .error .emailDomainIsNotAuthorized => return .domainIsNotAuthorized
    | page => return .content page

/-- `find_location_index` and `find`. -/
def findLocationIndex (pass : HttpProxyPass) (path : Str) :
    Option ProxyPassLocationConfig :=
  pass.endpointInfo.locations.find? (startsWithCaseInsensitive path ·.path)

/-- From the selected location on. -/
def dispatch (pass : HttpProxyPass) (app : AppCtx) (clientIp : Option IpAddr)
    (location : ProxyPassLocationConfig) (converts : Bool) :
    Outcome PayloadResult := do
  if !converts then return .failed .conversion
  else if ← app.whiteListIpList.admits location.ipWhiteListId clientIp then
    if location.proxyPassTo.isDrop then return .failed .dropConnection
    else return .dispatched location pass.identity
  else return .failed (.ipRestricted pass.listenHost)

def sendPayload (pass : HttpProxyPass) (app : AppCtx)
    (clientIp : Option IpAddr) (request : HyperRequest) :
    Outcome (HttpProxyPass × PayloadResult) := do
  match ← runOauthGateH2 app pass.endpointInfo request with
  | .answered response => return (pass, .answered (.oauth response))
  | .proceed =>
    match ← pass.handleAuthWithGAuth app request.parts with
    | .content page => return (pass, .answered (.signIn page))
    | .domainIsNotAuthorized => return (pass, .failed .unauthorized)
    | .passed user =>
      let pass := pass.store user
      if !pass.userAllowed app.allowedUsersList then
        return (pass, .failed .userIsForbidden)
      else
        match pass.findLocationIndex request.parts.path with
        | none => return (pass, .failed .noLocationFound)
        | some location =>
          let result ← pass.dispatch app clientIp location request.converts
          return (pass, result)

/-! ## Requests that are dispatched -/

variable {pass : HttpProxyPass} {app : AppCtx} {clientIp : Option IpAddr}

omit [StrUtils] in
theorem dispatch_dispatched_iff {location found : ProxyPassLocationConfig}
    {converts : Bool} {identity : Option HttpProxyPassIdentity} :
    pass.dispatch app clientIp found converts = .ret (.dispatched location identity) ↔
      converts = true ∧ location = found ∧ identity = pass.identity ∧
        app.whiteListIpList.admits found.ipWhiteListId clientIp = .ret true ∧
        found.proxyPassTo.isDrop = false := by
  unfold dispatch
  cases converts with
  | false => simp
  | true =>
    simp only [Bool.not_true, Bool.false_eq_true, if_false, bind_eq_ret_iff, true_and]
    constructor
    · rintro ⟨admitted, answered, continued⟩
      cases admitted with
      | false => simp at continued
      | true =>
        simp only [if_true] at continued
        split at continued
        · simp at continued
        · next notDrop =>
            cases continued
            exact ⟨rfl, rfl, answered, by simpa using notDrop⟩
    · rintro ⟨rfl, rfl, answered, notDrop⟩
      exact ⟨true, answered, by simp [notDrop]⟩

/-- A request is dispatched when the gate and the sign-in let it through, the
identity in the slot is on the list of the endpoint, and its location admits
the client. -/
theorem sendPayload_dispatched_iff {next : HttpProxyPass} {request : HyperRequest}
    {location : ProxyPassLocationConfig} {identity : Option HttpProxyPassIdentity} :
    pass.sendPayload app clientIp request = .ret (next, .dispatched location identity) ↔
      runOauthGateH2 app pass.endpointInfo request = .ret .proceed ∧
      ∃ user, pass.handleAuthWithGAuth app request.parts = .ret (.passed user) ∧
        next = pass.store user ∧
        next.userAllowed app.allowedUsersList = true ∧
        next.findLocationIndex request.parts.path = some location ∧
        next.dispatch app clientIp location request.converts =
          .ret (.dispatched location identity) := by
  unfold sendPayload
  simp only [bind_eq_ret_iff]
  constructor
  · rintro ⟨gate, gated, continued⟩
    cases gate with
    | answered response => simp at continued
    | proceed =>
      simp only [bind_eq_ret_iff] at continued
      obtain ⟨signIn, signedIn, continued⟩ := continued
      cases signIn with
      | content page => simp at continued
      | domainIsNotAuthorized => simp at continued
      | passed user =>
        refine ⟨gated, user, signedIn, ?_⟩
        simp only at continued
        split at continued
        · simp at continued
        next allowed =>
          cases found : (pass.store user).findLocationIndex request.parts.path with
          | none => simp [found] at continued
          | some selected =>
            simp only [found, bind_eq_ret_iff] at continued
            obtain ⟨result, dispatched, made⟩ := continued
            cases made
            obtain ⟨_, rfl, _⟩ := dispatch_dispatched_iff.mp dispatched
            exact ⟨rfl, by simpa using allowed, found, dispatched⟩
  · rintro ⟨gated, user, signedIn, rfl, allowed, found, dispatched⟩
    refine ⟨.proceed, gated, ?_⟩
    simp [signedIn, allowed, found, dispatched]

omit [StrUtils] in
@[simp] theorem store_endpointInfo (pass : HttpProxyPass)
    (user : Option Str) :
    (pass.store user).endpointInfo = pass.endpointInfo := by
  cases user with
  | none => rfl
  | some email => rfl

theorem sendPayload_endpointInfo {next : HttpProxyPass} {request : HyperRequest}
    {result : PayloadResult} (sent : pass.sendPayload app clientIp request = .ret (next, result)) :
    next.endpointInfo = pass.endpointInfo := by
  simp only [sendPayload, bind_eq_ret_iff] at sent
  obtain ⟨gate, _, continued⟩ := sent
  cases gate with
  | answered response =>
    cases continued
    rfl
  | proceed =>
    simp only [bind_eq_ret_iff] at continued
    obtain ⟨signIn, _, continued⟩ := continued
    cases signIn with
    | content page =>
      cases continued
      rfl
    | domainIsNotAuthorized =>
      cases continued
      rfl
    | passed user =>
      simp only at continued
      split at continued
      · cases continued
        exact store_endpointInfo pass user
      cases found : (pass.store user).findLocationIndex request.parts.path with
      | none =>
        simp only [found] at continued
        cases continued
        exact store_endpointInfo pass user
      | some location =>
        simp only [found, bind_eq_ret_iff] at continued
        obtain ⟨_, _, made⟩ := continued
        cases made
        exact store_endpointInfo pass user

end

end HttpProxyPass

end ReverseProxy
