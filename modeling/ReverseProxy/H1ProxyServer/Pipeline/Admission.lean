import ReverseProxy.H1ProxyServer.Pipeline.ReaderSteps

/-!
# Admission on the HTTP/1 pipeline

The checks `read_and_dispatch` makes between the resolved endpoint and the
upstream, without what happens to the bytes of the request.  A request that
reaches an upstream has been admitted.
-/

namespace ReverseProxy

open Outcome

section

variable [SliceOfU8Ext] [StrUtils]

/-- The checks behind the gate. -/
def admitLocation (app : AppCtx) (info : HttpEndpointInfo)
    (connectionInfo : HttpConnectionInfo) (headers : Http1Headers)
    (buf : Bytes) :
    Outcome (Option (ProxyPassLocationConfig × Option HttpProxyPassIdentity)) :=
  do
    let path ← getPathAndQuery (headers.getFirstLine buf)
    match ← info.findLocation (asBytes path) with
    | none => return none
    | some location =>
      if location.proxyPassTo.isDrop then return none
      else
        match ← authorize app info location connectionInfo headers buf with
        | .error _ => return none
        | .ok identity =>
          if info.userIsAllowed app.allowedUsersList identity then
            return some (location, identity)
          else return none

/-- The location and the identity a request is admitted with. -/
def h1Admission (app : AppCtx) (info : HttpEndpointInfo)
    (connectionInfo : HttpConnectionInfo) (reader : H1Reader)
    (headers : Http1Headers) :
    Outcome (Option (ProxyPassLocationConfig × Option HttpProxyPassIdentity)) :=
  do
    match ← checkEndpoint app info connectionInfo with
    | some _ => return none
    | none =>
      match ← runOauthGate app reader info headers with
      | (reader, .proceed) =>
        let buf ← reader.buffer.getData
        admitLocation app info connectionInfo headers buf
      | _ => return none

variable {info : HttpEndpointInfo} {headers : Http1Headers}

theorem admitLocation_eq_some_iff {app : AppCtx} {connectionInfo : HttpConnectionInfo} {buf : Bytes}
    {location : ProxyPassLocationConfig}
    {identity : Option HttpProxyPassIdentity} :
    admitLocation app info connectionInfo headers buf = .ret (some (location, identity)) ↔
      ∃ path, getPathAndQuery (headers.getFirstLine buf) = .ret path ∧
        info.findLocation (asBytes path) = .ret (some location) ∧
        location.proxyPassTo.isDrop = false ∧
        authorize app info location connectionInfo headers buf = .ret (.ok identity) ∧
        info.userIsAllowed app.allowedUsersList identity = true := by
  unfold admitLocation
  simp only [bind_eq_ret_iff]
  constructor
  · rintro ⟨path, read, found, search, continued⟩
    cases found with
    | none => simp at continued
    | some found =>
      simp only at continued
      split at continued
      · simp at continued
      next notDrop =>
        rw [bind_eq_ret_iff] at continued
        obtain ⟨result, authorized, finished⟩ := continued
        cases result with
        | error err => simp at finished
        | ok proven =>
          simp only at finished
          split at finished
          · next allowed =>
              cases finished
              exact ⟨path, read, search, by simpa using notDrop, authorized, allowed⟩
          · simp at finished
  · rintro ⟨path, read, search, notDrop, authorized, allowed⟩
    refine ⟨path, read, some location, search, ?_⟩
    simp [notDrop, authorized, allowed]

theorem h1Admission_eq_some_iff {app : AppCtx}
    {connectionInfo : HttpConnectionInfo} {reader : H1Reader}
    {location : ProxyPassLocationConfig}
    {identity : Option HttpProxyPassIdentity} :
    h1Admission app info connectionInfo reader headers = .ret (some (location, identity)) ↔
      checkEndpoint app info connectionInfo = .ret none ∧
        runOauthGate app reader info headers = .ret (reader, .proceed) ∧
        ∃ buf, reader.buffer.getData = .ret buf ∧
          admitLocation app info connectionInfo headers buf = .ret (some (location, identity)) := by
  unfold h1Admission
  simp only [bind_eq_ret_iff]
  constructor
  · rintro ⟨refusal, checked, continued⟩
    cases refusal with
    | some err => simp at continued
    | none =>
      rw [bind_eq_ret_iff] at continued
      obtain ⟨⟨after, outcome⟩, gated, admitted⟩ := continued
      cases outcome with
      | answered bytes => simp at admitted
      | close => simp at admitted
      | proceed =>
        cases runOauthGate_proceed gated
        rw [bind_eq_ret_iff] at admitted
        exact ⟨checked, gated, admitted⟩
  · rintro ⟨checked, gated, buf, read, admitted⟩
    refine ⟨none, checked, ?_⟩
    simp [gated, read, admitted]

end

/-! ## Only admitted requests reach an upstream -/

/-- The request a step hands to an upstream. -/
def StepResult.reaches (result : StepResult) (request : UpstreamRequest) :
    Prop :=
  result.queued = .upstream request ∨ result.step = .upgrade request

/-- The request as a value. -/
def StepResult.upstream (result : StepResult) : Option UpstreamRequest :=
  match result.queued, result.step with
  | .upstream request, _ => some request
  | _, .upgrade request => some request
  | _, _ => none

variable {request : UpstreamRequest}

theorem StepResult.reaches_of_upstream {result : StepResult}
    (handed : result.upstream = some request) : result.reaches request := by
  unfold upstream at handed
  split at handed
  · next queued =>
      cases handed
      exact Or.inl queued
  · next upgraded _ =>
      cases handed
      exact Or.inr upgraded
  · cases handed

theorem respondError_reaches_nothing {env : StepEnv} {state : ReaderState}
    {err : ProxyServerError} :
    ¬ (respondError env state err).reaches request := by
  rintro (queued | upgraded)
  · simp only [respondError] at queued
    split at queued
    · split at queued
      · cases queued
      · cases queued
    · cases queued
  · cases upgraded

theorem emitSingleResponse_reaches_nothing {env : StepEnv}
    {state : ReaderState} {keepAlive : Bool} {bytes : Bytes} :
    ¬ (emitSingleResponse env state keepAlive bytes).reaches request := by
  unfold emitSingleResponse
  split
  · rintro (queued | upgraded)
    · cases queued
    · simp only at upgraded
      split at upgraded
      · cases upgraded
      · cases upgraded
  · rintro (queued | upgraded)
    · cases queued
    · cases upgraded

section

variable [SliceOfU8Ext] [StrUtils] [RemoteEndpointParser] {info : HttpEndpointInfo}
  {headers : Http1Headers}

theorem selectRoute_admits {app : AppCtx} {connectionInfo : HttpConnectionInfo} {buf : Bytes}
    {route : Route}
    (selected : selectRoute app info connectionInfo headers buf = .ret (.ok route)) :
    admitLocation app info connectionInfo headers buf =
      .ret (some (route.location, route.identity)) := by
  rw [admitLocation_eq_some_iff]
  unfold selectRoute at selected
  simp only [bind_eq_ret_iff] at selected
  obtain ⟨path, read, found, search, continued⟩ := selected
  cases found with
  | none => simp at continued
  | some location =>
    simp only at continued
    split at continued
    · simp at continued
    next notDrop =>
      rw [bind_eq_ret_iff] at continued
      obtain ⟨result, authorized, finished⟩ := continued
      cases result with
      | error err => simp at finished
      | ok identity =>
        simp only at finished
        split at finished
        · simp at finished
        next allowed =>
          rw [bind_eq_ret_iff] at finished
          obtain ⟨resolved, _, made⟩ := finished
          cases resolved with
          | error err => simp at made
          | ok target =>
            cases made
            exact ⟨path, read, search, by simpa using notDrop,
              authorized, by simpa using allowed⟩

/-- A request that is handed to an upstream was admitted, with the location
and the identity it carries. -/
theorem HandledAs.admits {env : StepEnv} {state : ReaderState}
    {result : StepResult} {request : UpstreamRequest}
    (handled : HandledAs env state info headers result) (reaches : result.reaches request) :
    request.endPointInfo = info ∧
      h1Admission env.app info state.connectionInfo state.reader headers =
        .ret (some (request.location, request.identity)) := by
  have admitted : ∀ {route : Route}, Routed env state info headers route →
      request.location = route.location ∧ request.identity = route.identity ∧
        request.endPointInfo = info → request.endPointInfo = info ∧
          h1Admission env.app info state.connectionInfo state.reader headers =
            .ret (some (request.location, request.identity)) := by
    rintro route ⟨checked, gated, buf, read, selected⟩ ⟨sameLocation, sameIdentity, sameInfo⟩
    rw [h1Admission_eq_some_iff, sameLocation, sameIdentity]
    exact ⟨sameInfo, checked, gated, buf, read, selectRoute_admits selected⟩
  cases handled with
  | refused err => exact (respondError_reaches_nothing reaches).elim
  | answered bytes left => exact (emitSingleResponse_reaches_nothing reaches).elim
  | closed reader => rcases reaches with queued | upgraded <;> contradiction
  | upgraded routed carries =>
    rcases reaches with queued | upgraded
    · cases queued
    · cases upgraded
      exact admitted routed carries
  | dispatched routed carries transferred =>
    rcases reaches with queued | upgraded
    · cases queued
      exact admitted routed carries
    · simp only at upgraded
      split at upgraded <;> cases upgraded

variable [Platform]

/-- The same for the whole step: the endpoint is the one resolved for the
request. -/
theorem readAndDispatch_admits {env : StepEnv} {state : ReaderState}
    {result : StepResult} {request : UpstreamRequest}
    (stepped : readAndDispatch env state = .ret result)
    (reaches : result.reaches request) :
    ∃ reader headers buf, state.reader.readHeaders = .ret (reader, .ok headers) ∧
      reader.buffer.getData = .ret buf ∧
      resolveEndpoint state.connectionInfo headers buf = .ret (some request.endPointInfo) ∧
      h1Admission env.app request.endPointInfo
          { state.connectionInfo with
            endpointInfo := some request.endPointInfo } reader headers =
        .ret (some (request.location, request.identity)) := by
  simp only [readAndDispatch, bind_eq_ret_iff] at stepped
  obtain ⟨⟨reader, read⟩, headersRead, continued⟩ := stepped
  cases read with
  | error err =>
    cases continued
    rcases reaches with queued | upgraded
    · cases queued
    · cases upgraded
  | ok headers =>
    simp only [bind_eq_ret_iff] at continued
    obtain ⟨buf, filled, endpointInfo, resolved, handled⟩ := continued
    cases endpointInfo with
    | none =>
      cases handled
      exact (respondError_reaches_nothing reaches).elim
    | some info =>
      obtain ⟨rfl, admitted⟩ := (handleRequest_handledAs handled).admits reaches
      exact ⟨reader, headers, buf, headersRead, filled, resolved, admitted⟩

end

end ReverseProxy
