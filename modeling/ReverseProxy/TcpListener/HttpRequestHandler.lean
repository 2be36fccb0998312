import ReverseProxy.HttpProxyPass.SendPayload

/-!
# Request handlers of a hyper connection

A connection keeps one `HttpProxyPass` for each host it has seen.  The handler
behind TLS and the one of plain-text HTTP/2 find or build it in the same way;
they differ in what they check when they build one.
-/

namespace ReverseProxy

open Outcome HttpProxyPass

inductive HandlerRejection where
  | unknownHost
  | noConfigurationFound
  | misdirectedRequest
  | restrictedByIp
deriving DecidableEq, Repr

/-- `HttpsRequestsHandler` and `HttpRequestHandler`; the second has no client
certificate. -/
structure RequestHandler where
  proxyPasses : List (Str × HttpProxyPass) := []
  connectionIp : Option IpAddr
  listenPortConfig : HttpListenPortConfiguration
  clientCertificate : Option ClientCertificateData := none
deriving DecidableEq, Repr

/-- The host of the URI, else the host of the header without its port. -/
def Parts.requestHost (parts : Parts) : Option Str :=
  match parts.host with
  | some host => some host
  | none =>
    (((parts.get "host").bind headerToStr).map fun value =>
      trim (value.takeWhile (· != ':'))).filter (· ≠ [])

/-- `str::to_ascii_lowercase`. -/
def hostKey (host : Str) : Str := host.map Char.toLower

namespace RequestHandler

/-- The host is looked up in the cache first; `check` runs and `identityOf` is
asked only when a new entry is built. -/
def findOrBuild (handler : RequestHandler)
    (check : HttpEndpointInfo → Outcome (Option HandlerRejection))
    (identityOf : HttpEndpointInfo → Option ClientCertificateData)
    (parts : Parts) :
    Outcome (RequestHandler × Except HandlerRejection (Str × HttpProxyPass)) :=
  match parts.requestHost with
  | none => .ret (handler, .error .unknownHost)
  | some host =>
    match handler.proxyPasses.lookup (hostKey host) with
    | some existing => .ret (handler, .ok (hostKey host, existing))
    | none => do
      match ← handler.listenPortConfig.getHttpEndpointInfo (some (asBytes host)) with
      | none => return (handler, .error .noConfigurationFound)
      | some info =>
        match ← check info with
        | some rejection => return (handler, .error rejection)
        | none =>
          let pass := new info handler.listenPortConfig.listenHost (identityOf info)
          return (
            { handler with
              proxyPasses := (hostKey host, pass) :: handler.proxyPasses },
            .ok (hostKey host, pass))

/-- The checks of the handler behind TLS. -/
def checkHttps (handler : RequestHandler) (app : AppCtx)
    (info : HttpEndpointInfo) : Outcome (Option HandlerRejection) :=
  app.whiteListIpList.refusal info handler.clientCertificate
    handler.connectionIp .misdirectedRequest .restrictedByIp

/-- `HttpsRequestsHandler::get_http_proxy_pass`. -/
def getHttpsProxyPass (handler : RequestHandler) (app : AppCtx) (parts : Parts) :
    Outcome (RequestHandler × Except HandlerRejection (Str × HttpProxyPass)) :=
  handler.findOrBuild (handler.checkHttps app)
    (fun info => handler.clientCertificate.filter fun cert =>
      info.clientCertIdentityApplies cert.caId)
    parts

/-- `HttpRequestHandler::get_http_proxy_pass`: nothing is checked. -/
def getHttpProxyPass (handler : RequestHandler) (parts : Parts) :
    Outcome (RequestHandler × Except HandlerRejection (Str × HttpProxyPass)) :=
  handler.findOrBuild (fun _ => .ret none) (fun _ => none) parts

variable {handler next : RequestHandler}
  {check : HttpEndpointInfo → Outcome (Option HandlerRejection)}
  {identityOf : HttpEndpointInfo → Option ClientCertificateData}
  {pass : HttpProxyPass}

variable {parts : Parts} {key : Str}

theorem findOrBuild_eq_ok_iff :
    handler.findOrBuild check identityOf parts = .ret (next, .ok (key, pass)) ↔
      ∃ host, parts.requestHost = some host ∧ key = hostKey host ∧
        ((handler.proxyPasses.lookup key = some pass ∧ next = handler) ∨
          (handler.proxyPasses.lookup key = none ∧ ∃ info,
            handler.listenPortConfig.getHttpEndpointInfo (some (asBytes host)) = .ret (some info) ∧
            check info = .ret none ∧
            pass = new info handler.listenPortConfig.listenHost (identityOf info) ∧
            next = { handler with
              proxyPasses := (key, pass) :: handler.proxyPasses })) := by
  unfold findOrBuild
  cases named : parts.requestHost with
  | none => simp
  | some host =>
    dsimp only
    cases cached : handler.proxyPasses.lookup (hostKey host) with
    | some existing =>
      constructor
      · intro found
        cases found
        exact ⟨host, rfl, rfl, Or.inl ⟨cached, rfl⟩⟩
      · rintro ⟨other, same, rfl, found⟩
        cases same
        rcases found with ⟨found, rfl⟩ | ⟨absent, _⟩
        · cases cached.symm.trans found
          rfl
        · rw [cached] at absent
          cases absent
    | none =>
      simp only [bind_eq_ret_iff]
      constructor
      · rintro ⟨endpoint, resolved, continued⟩
        cases endpoint with
        | none => simp at continued
        | some info =>
          rw [bind_eq_ret_iff] at continued
          obtain ⟨rejection, checked, made⟩ := continued
          cases rejection with
          | some rejection => simp at made
          | none =>
            cases made
            exact ⟨host, rfl, rfl, Or.inr ⟨cached, info, resolved, checked, rfl, rfl⟩⟩
      · rintro ⟨other, same, rfl, found⟩
        cases same
        rcases found with ⟨found, _⟩ | ⟨_, info, resolved, checked, rfl, rfl⟩
        · rw [cached] at found
          cases found
        · exact ⟨some info, resolved, by simp [checked]⟩

/-- The entry of a host after one of its requests. -/
def put (handler : RequestHandler) (key : Str) (pass : HttpProxyPass) :
    RequestHandler :=
  { handler with
    proxyPasses := handler.proxyPasses.map fun entry =>
      if entry.1 = key then (key, pass) else entry }

theorem findOrBuild_keeps {outcome : Except HandlerRejection (Str × HttpProxyPass)}
    (found : handler.findOrBuild check identityOf parts = .ret (next, outcome)) :
    next.connectionIp = handler.connectionIp ∧
      ∀ rejection, outcome = .error rejection → next = handler := by
  cases outcome with
  | ok entry =>
    obtain ⟨key, pass⟩ := entry
    obtain ⟨_, _, _, ⟨_, rfl⟩ | ⟨_, _, _, _, _, rfl⟩⟩ := findOrBuild_eq_ok_iff.mp found
    · exact ⟨rfl, by simp⟩
    · exact ⟨rfl, by simp⟩
  | error rejection =>
    suffices same : next = handler from ⟨by rw [same], fun _ _ => same⟩
    unfold findOrBuild at found
    cases named : parts.requestHost with
    | none =>
      rw [named] at found
      cases found
      rfl
    | some host =>
      simp only [named] at found
      split at found
      · cases found
      simp only [bind_eq_ret_iff] at found
      obtain ⟨endpoint, _, continued⟩ := found
      cases endpoint with
      | none =>
        cases continued
        rfl
      | some info =>
        simp only [bind_eq_ret_iff] at continued
        obtain ⟨refusal, _, made⟩ := continued
        cases refusal with
        | none => cases made
        | some refusal =>
          cases made
          rfl

/-- Every endpoint the handler has a pass for has the property. -/
def AllCached (handler : RequestHandler) (Holds : HttpEndpointInfo → Prop) :
    Prop :=
  ∀ entry ∈ handler.proxyPasses, Holds entry.2.endpointInfo

variable {Holds : HttpEndpointInfo → Prop}

variable (cached : handler.AllCached Holds)

include cached

theorem AllCached.put (holds : Holds pass.endpointInfo) :
    (handler.put key pass).AllCached Holds := by
  intro entry present
  obtain ⟨old, oldPresent, rfl⟩ := List.mem_map.mp present
  split
  · exact holds
  · exact cached old oldPresent

theorem AllCached.lookup (found : handler.proxyPasses.lookup key = some pass) :
    Holds pass.endpointInfo := by
  obtain ⟨before, after, split, _⟩ := List.lookup_eq_some_iff.mp found
  exact cached (key, pass) (by simp [split])

theorem AllCached.findOrBuild (built : ∀ host info, parts.requestHost = some host →
      handler.listenPortConfig.getHttpEndpointInfo (some (asBytes host)) = .ret (some info) →
      check info = .ret none → Holds info)
    (found : handler.findOrBuild check identityOf parts = .ret (next, .ok (key, pass))) :
    next.AllCached Holds ∧ Holds pass.endpointInfo := by
  obtain ⟨host, named, rfl, ⟨known, rfl⟩ |
    ⟨_, info, resolved, checked, rfl, rfl⟩⟩ := findOrBuild_eq_ok_iff.mp found
  · exact ⟨cached, cached.lookup known⟩
  · have holds := built host info named resolved checked
    refine ⟨?_, holds⟩
    intro entry present
    rcases List.mem_cons.mp present with rfl | present
    · exact holds
    · exact cached entry present

end RequestHandler

/-- How a request left a handler. -/
inductive HandledRequest where
  | rejected (rejection : HandlerRejection)
  | served (info : HttpEndpointInfo) (result : PayloadResult)

section

variable [StrUtils]

/-- The part both `handle_request` functions share. -/
def RequestHandler.serve (found :
      RequestHandler × Except HandlerRejection (Str × HttpProxyPass))
    (app : AppCtx) (request : HyperRequest) :
    Outcome (RequestHandler × HandledRequest) :=
  match found with
  | (handler, .error rejection) => .ret (handler, .rejected rejection)
  | (handler, .ok (key, pass)) => do
    let (next, result) ← pass.sendPayload app handler.connectionIp request
    return (handler.put key next, .served pass.endpointInfo result)

/-- What holds of all cached endpoints and comes from the checks of a new one
holds of the endpoint that serves a request, and goes on to hold. -/
theorem RequestHandler.AllCached.handled {handler next : RequestHandler}
    {Holds : HttpEndpointInfo → Prop}
    {check : HttpEndpointInfo → Outcome (Option HandlerRejection)}
    {identityOf : HttpEndpointInfo → Option ClientCertificateData}
    {app : AppCtx} {request : HyperRequest} {outcome : HandledRequest}
    (cached : handler.AllCached Holds)
    (built : ∀ host info, request.parts.requestHost = some host →
      handler.listenPortConfig.getHttpEndpointInfo (some (asBytes host)) = .ret (some info) →
      check info = .ret none → Holds info)
    (handled : (handler.findOrBuild check identityOf request.parts >>=
      fun found => serve found app request) = .ret (next, outcome)) :
    next.connectionIp = handler.connectionIp ∧ next.AllCached Holds ∧
      ∀ info result, outcome = .served info result → Holds info := by
  rw [bind_eq_ret_iff] at handled
  obtain ⟨⟨between, answer⟩, found, served⟩ := handled
  obtain ⟨sameIp, unchanged⟩ := findOrBuild_keeps found
  cases answer with
  | error rejection =>
    cases served
    cases unchanged rejection rfl
    exact ⟨rfl, cached, by simp⟩
  | ok entry =>
    obtain ⟨key, pass⟩ := entry
    obtain ⟨allCached, holds⟩ := cached.findOrBuild built found
    simp only [serve, bind_eq_ret_iff] at served
    obtain ⟨⟨sent, result⟩, payload, made⟩ := served
    cases made
    have same := sendPayload_endpointInfo payload
    refine ⟨sameIp, allCached.put (same ▸ holds), ?_⟩
    intro info result equal
    cases equal
    exact holds

/-- `handle_request` behind TLS. -/
def RequestHandler.handleHttpsRequest (handler : RequestHandler)
    (app : AppCtx) (request : HyperRequest) :
    Outcome (RequestHandler × HandledRequest) := do
  let found ← handler.getHttpsProxyPass app request.parts
  serve found app request

/-- `handle_request` of plain-text HTTP/2. -/
def RequestHandler.handleHttpRequest (handler : RequestHandler)
    (app : AppCtx) (request : HyperRequest) :
    Outcome (RequestHandler × HandledRequest) := do
  let found ← handler.getHttpProxyPass request.parts
  serve found app request

/-- The endpoint whose upstream the request was sent to. -/
def HandledRequest.upstream : HandledRequest → Option HttpEndpointInfo
  | .served info (.dispatched _ _) => some info
  | _ => none

omit [StrUtils] in
theorem HandledRequest.served_of_upstream {handled : HandledRequest}
    {info : HttpEndpointInfo} (reached : handled.upstream = some info) :
    ∃ result, handled = .served info result := by
  cases handled with
  | rejected rejection => cases reached
  | served served result =>
    cases result with
    | answered answer => cases reached
    | failed err => cases reached
    | dispatched location identity =>
      cases reached
      exact ⟨_, rfl⟩

end

end ReverseProxy
