import ReverseProxy.H1ProxyServer.Pipeline.ReaderSteps
import ReverseProxy.H1Utils.HeaderValues
import ReverseProxy.Library.Runs

/-!
# Virtual hosts on a kept connection

The endpoint that served a request stays on the connection.  The next request
keeps it when it claims the same host or none; else the endpoint is looked up
again.
-/

namespace ReverseProxy

open Outcome HttpListenPortConfiguration Library

/-! ## The host of a request -/

/-- The value of `Host` in front of the port, as the request states it. -/
def statedHost (headers : Http1Headers) (buf : Bytes) : Outcome (Option Str) :=
  match headers.hostValue with
  | none => .ret none
  | some position => do
    let bytes ← slice buf position.start position.stop
    return (fromUtf8 bytes).map (·.takeWhile (· != ':'))

theorem tryFindEndpointInfo_of_statedHost {headers : Http1Headers} {buf : Bytes} {host : Option Str}
    (stated : statedHost headers buf = .ret host)
    (config : HttpListenPortConfiguration) :
    tryFindEndpointInfo headers buf config = config.getHttpEndpointInfo (host.map asBytes) := by
  unfold statedHost at stated
  unfold tryFindEndpointInfo
  cases position : headers.hostValue with
  | none =>
    rw [position] at stated
    cases stated
    rfl
  | some position =>
    simp only [position, bind_eq_ret_iff] at stated
    obtain ⟨bytes, sliced, named⟩ := stated
    have same := ret.inj named
    simp only [sliced, bind_ret]
    cases text : fromUtf8 bytes with
    | none =>
      rw [text] at same
      cases same
      rfl
    | some text =>
      simp only [text] at same
      cases same
      rfl

theorem requestHostForMetric_eq_ret {headers : Http1Headers} {buf : Bytes} {metricHost : Option Str}
    (inside : ∀ position, headers.hostValue = some position → position.stop ≤ buf.length)
    (read : requestHostForMetric headers buf = .ret metricHost) :
    ∃ host, statedHost headers buf = .ret host ∧ metricHost = host.map trim := by
  unfold requestHostForMetric at read
  unfold statedHost
  cases found : headers.hostValue with
  | none =>
    rw [found] at read
    cases read
    exact ⟨none, rfl, rfl⟩
  | some position =>
    have fits : ¬ position.stop > buf.length := Nat.not_lt.mpr (inside position found)
    simp only [found, fits, if_false, bind_eq_ret_iff] at read
    obtain ⟨bytes, sliced, named⟩ := read
    refine ⟨(fromUtf8 bytes).map (·.takeWhile (· != ':')),
      by simp [sliced], ?_⟩
    rw [← ret.inj named, Option.map_map]
    rfl

/-! ## Endpoints selected by the host alone -/

/-- The endpoint on the connection stands first among those that claim the
host, as far as the request keeps it.  A request keeps it when it claims the
trimmed host; without a host it has to be the only endpoint, and one without a
name. -/
def FirstClaimant (connectionInfo : HttpConnectionInfo) (host : Option Str) :
    Prop :=
  ∀ current, connectionInfo.endpointInfo = some current →
    match host with
    | none => connectionInfo.listenConfig.endpoints = [current] ∧
        current.hostEndpoint.hasServerName = false
    | some name => current.isMyEndpoint (asBytes (trim name)) = true →
        current.isMyEndpoint (asBytes name) = true ∧
          ∃ before after, connectionInfo.listenConfig.endpoints = before ++ current :: after ∧
            ∀ earlier ∈ before, earlier.isMyEndpoint (asBytes name) = false

theorem getHttpEndpointInfo_none_iff {config : HttpListenPortConfiguration}
    {current : HttpEndpointInfo} :
    config.getHttpEndpointInfo none = .ret (some current) ↔
      config.endpoints = [current] ∧ current.hostEndpoint.hasServerName = false := by
  unfold getHttpEndpointInfo
  cases listed : config.endpoints with
  | nil => simp
  | cons first others =>
    cases others with
    | cons second others => simp
    | nil =>
      cases named : first.hostEndpoint.hasServerName with
      | true =>
        simp only [named, if_true]
        constructor
        · intro found
          cases found
        · rintro ⟨same, unnamed⟩
          cases same
          rw [named] at unnamed
          cases unnamed
      | false =>
        simp only [named, Bool.false_eq_true, if_false]
        constructor
        · intro found
          cases found
          exact ⟨rfl, named⟩
        · rintro ⟨same, _⟩
          cases same
          rfl

theorem getHttpEndpointInfo_some_iff {config : HttpListenPortConfiguration}
    {current : HttpEndpointInfo} {name : Bytes} :
    config.getHttpEndpointInfo (some name) = .ret (some current) ↔
      current.isMyEndpoint name = true ∧
        ∃ before after, config.endpoints = before ++ current :: after ∧
          ∀ earlier ∈ before, earlier.isMyEndpoint name = false := by
  unfold getHttpEndpointInfo
  simp [List.find?_eq_some_iff_append]

theorem resolveEndpoint_by_host_iff {connectionInfo : HttpConnectionInfo}
    {headers : Http1Headers} {buf : Bytes} {host : Option Str}
    {endpointInfo : Option HttpEndpointInfo}
    (inside : ∀ position, headers.hostValue = some position → position.stop ≤ buf.length)
    (stated : statedHost headers buf = .ret host)
    (resolved : resolveEndpoint connectionInfo headers buf = .ret endpointInfo) :
    connectionInfo.listenConfig.getHttpEndpointInfo (host.map asBytes) = .ret endpointInfo ↔
      FirstClaimant connectionInfo host := by
  rw [resolveEndpoint, bind_eq_ret_iff] at resolved
  obtain ⟨metricHost, read, resolved⟩ := resolved
  obtain ⟨_, restated, rfl⟩ := requestHostForMetric_eq_ret inside read
  cases stated.symm.trans restated
  rw [tryFindEndpointInfo_of_statedHost stated] at resolved
  unfold FirstClaimant
  cases cached : connectionInfo.endpointInfo with
  | none =>
    simp only [cached, needsEndpointResolve, if_true] at resolved
    simp [resolved]
  | some current =>
    cases host with
    | none =>
      simp only [cached, needsEndpointResolve, Option.map_none,
        Bool.false_eq_true, if_false] at resolved
      cases resolved
      simp [getHttpEndpointInfo_none_iff]
    | some name =>
      simp only [cached, needsEndpointResolve, Option.map_some] at resolved
      cases claimed : current.isMyEndpoint (asBytes (trim name)) with
      | true =>
        simp only [claimed, Bool.not_true, Bool.false_eq_true, if_false] at resolved
        cases resolved
        simp [getHttpEndpointInfo_some_iff, claimed]
      | false =>
        simp only [claimed, Bool.not_false, if_true] at resolved
        simp [resolved, claimed]

/-! ## The endpoint a step leaves on the connection -/

section

variable [SliceOfU8Ext]

section

variable [StrUtils]

namespace Http1Headers

theorem parse_hostValue {src : Bytes} {headers : Http1Headers}
    (parsed : parse src = .ret (some headers)) :
    ∀ position, headers.hostValue = some position → position.stop ≤ src.length := by
  intro position found
  obtain ⟨head, rest, rfl⟩ := exists_head_of_parse parsed
  rcases valueOf_accepted parsed .host with
    ⟨_, missing⟩ | ⟨pos, name, value, lineAt, _, _, _, recorded⟩
  · cases missing.symm.trans found
  cases recorded.symm.trans found
  obtain ⟨front, after, source, rfl⟩ := lineAt.source rest
  rw [source]
  simp [fieldRange, Nat.add_assoc]

end Http1Headers

theorem H1Reader.readHeadersLoop_parsed {fuel : Nat} {reader after : H1Reader}
    {headers : Http1Headers}
    (read : reader.readHeadersLoop fuel = .ret (after, .ok headers)) :
    ∃ buf, after.buffer.getData = .ret buf ∧ Http1Headers.parse buf = .ret (some headers) := by
  induction fuel generalizing reader with
  | zero => cases read
  | succ fuel ih =>
    simp only [readHeadersLoop, bind_eq_ret_iff] at read
    obtain ⟨buf, filled, found, parsed, continued⟩ := read
    cases found with
    | some found =>
      cases continued
      unfold parseBuffered at parsed
      split at parsed
      · exact ⟨buf, filled, parsed⟩
      · cases parsed
    | none =>
      simp only at continued
      split at continued
      · cases continued
      · exact ih continued

end

section

variable {env : StepEnv} {state : ReaderState} {info : HttpEndpointInfo}
  {headers : Http1Headers} {result : StepResult}

variable [StrUtils] [RemoteEndpointParser]

theorem HandledAs.connectionInfo (handled : HandledAs env state info headers result) :
    result.state.connectionInfo = state.connectionInfo := by
  cases handled with
  | answered bytes left => rw [emitSingleResponse_state]
  | _ => rfl

variable [Platform]

theorem readAndDispatch_connectionInfo {reader : H1Reader} {buf : Bytes}
    (stepped : readAndDispatch env state = .ret result)
    (read : state.reader.readHeaders = .ret (reader, .ok headers))
    (filled : reader.buffer.getData = .ret buf) :
    ∃ endpointInfo, resolveEndpoint state.connectionInfo headers buf = .ret endpointInfo ∧
      result.state.connectionInfo = { state.connectionInfo with endpointInfo } := by
  simp only [readAndDispatch, read, filled, bind_ret, bind_eq_ret_iff] at stepped
  obtain ⟨endpointInfo, resolved, handled⟩ := stepped
  refine ⟨endpointInfo, resolved, ?_⟩
  cases endpointInfo with
  | none =>
    cases handled
    rfl
  | some info => exact (handleRequest_handledAs handled).connectionInfo

/-! ## Every request of a kept connection -/

/-- The requests of one kept connection. -/
def KeptStep (before : ReaderState) (env : StepEnv) (after : ReaderState) :
    Prop :=
  ∃ result, readAndDispatch env before = .ret result ∧
    result.step = .continueReading ∧ after = result.state

/-- Two states of a connection of one listener. -/
def SameListener (first state : ReaderState) : Prop :=
  state.connectionInfo.listenConfig = first.connectionInfo.listenConfig

theorem KeptStep.sameListener {first before after : ReaderState}
    (same : SameListener first before) (step : KeptStep before env after) :
    SameListener first after := by
  obtain ⟨result, stepped, continues, rfl⟩ := step
  obtain ⟨reader, headers, read, _⟩ := readAndDispatch_left stepped continues
  obtain ⟨buf, filled, _⟩ := H1Reader.readHeadersLoop_parsed read
  obtain ⟨_, _, kept⟩ := readAndDispatch_connectionInfo stepped read filled
  unfold SameListener
  rw [kept]
  exact same

/-- After any requests on the connection, the endpoint that serves the next one
is the endpoint its host alone selects exactly when the endpoint left on the
connection stands first for that host. -/
theorem served_by_host_iff {first : ReaderState} {reader : H1Reader}
    (run : Run KeptStep (fun _ _ => True) first state)
    (stepped : readAndDispatch env state = .ret result)
    (read : state.reader.readHeaders = .ret (reader, .ok headers)) :
    ∃ buf host, reader.buffer.getData = .ret buf ∧ statedHost headers buf = .ret host ∧
      (first.connectionInfo.listenConfig.getHttpEndpointInfo
          (host.map asBytes) = .ret result.state.connectionInfo.endpointInfo ↔
        FirstClaimant state.connectionInfo host) := by
  have kept : SameListener first state :=
    run.invariant rfl fun same _ step => step.sameListener same
  have sameConfig : state.connectionInfo.listenConfig =
      first.connectionInfo.listenConfig := kept
  obtain ⟨buf, filled, parsed⟩ := H1Reader.readHeadersLoop_parsed read
  have inside := Http1Headers.parse_hostValue parsed
  obtain ⟨endpointInfo, resolved, left⟩ := readAndDispatch_connectionInfo stepped read filled
  obtain ⟨metricHost, metricRead, _⟩ := bind_eq_ret_iff.mp resolved
  obtain ⟨host, stated, _⟩ := requestHostForMetric_eq_ret inside metricRead
  refine ⟨buf, host, filled, stated, ?_⟩
  rw [left, ← sameConfig]
  exact resolveEndpoint_by_host_iff inside stated resolved

end

end

/-! ## A catch-all endpoint left on the connection -/

section

attribute [local instance] linearSearch asciiCase barePlatform noRemoteEndpoints

/-- An endpoint that answers every request itself. -/
def answeringEndpoint (src : String) (index : Option Nat) : HttpEndpointInfo :=
  { hostEndpoint := { src := src.toList, port := some 80, index }
    listenEndpointType := .http1
    locations := [
      { path := ['/']
        proxyPassTo := .static { statusCode := 200, contentType := none, body := [] } }] }

def shopEndpoint : HttpEndpointInfo := answeringEndpoint "shop:80" (some 4)

def catchAllEndpoint : HttpEndpointInfo := answeringEndpoint "80" none

def getHost (host : String) : Bytes := ascii ("GET / HTTP/1.1\r\nHost: " ++ host ++ "\r\n\r\n")

/-- A connection that delivers one request for each of the hosts. -/
def hostsConnection (hosts : List String) : ReaderState :=
  { reader :=
      { events := hosts.map fun host => .data (getHost host)
        buffer := .new fun _ => 0 }
    connectionInfo :=
      { cnUserName := none
        connectionIp := none
        endpointInfo := none
        listenConfig :=
          { endpoints := [shopEndpoint, catchAllEndpoint]
            listenEndpointType := .http1 } } }

def hostsListener : HttpListenPortConfiguration := (hostsConnection []).connectionInfo.listenConfig

/-- Two requests, with the connection after the first, the host of the second
and the endpoint that serves it. -/
def secondServed (hosts : List String) :
    Outcome (ReaderStep × HttpConnectionInfo × Option Str × Option HttpEndpointInfo) := do
  let first ← readAndDispatch {} (hostsConnection hosts)
  let second ← readAndDispatch {} first.state
  match ← first.state.reader.readHeaders with
  | (_, .error _) => .panic
  | (reader, .ok headers) =>
    let buf ← reader.buffer.getData
    let host ← statedHost headers buf
    return (first.step, first.state.connectionInfo, host, second.state.connectionInfo.endpointInfo)

theorem secondServed_run {hosts : List String}
    {connectionInfo : HttpConnectionInfo} {host : Option Str}
    {endpointInfo : Option HttpEndpointInfo}
    (evaluated : secondServed hosts = .ret (.continueReading, connectionInfo, host, endpointInfo)) :
    ∃ state result reader headers buf,
      Run KeptStep (fun _ _ => True) (hostsConnection hosts) state ∧
      readAndDispatch {} state = .ret result ∧
      state.reader.readHeaders = .ret (reader, .ok headers) ∧
      reader.buffer.getData = .ret buf ∧ statedHost headers buf = .ret host ∧
      state.connectionInfo = connectionInfo ∧
      result.state.connectionInfo.endpointInfo = endpointInfo := by
  simp only [secondServed, bind_eq_ret_iff] at evaluated
  obtain ⟨first, firstStep, second, secondStep, ⟨reader, headers⟩, read, continued⟩ := evaluated
  cases headers with
  | error err => cases continued
  | ok headers =>
    simp only [bind_eq_ret_iff] at continued
    obtain ⟨buf, filled, stated, named, view⟩ := continued
    have parts := ret.inj view
    simp only [Prod.mk.injEq] at parts
    obtain ⟨continues, connection, rfl, served⟩ := parts
    exact ⟨first.state, second, reader, headers, buf,
      .step (.start _) trivial ⟨first, firstStep, continues, rfl⟩,
      secondStep, read, filled, named, connection, served⟩

/-- A request for another host than the one before. -/
theorem served_by_host_iff_otherHost :
    ∃ state result, Run KeptStep (fun _ _ => True) (hostsConnection ["shop", "b"]) state ∧
      readAndDispatch {} state = .ret result ∧
      hostsListener.getHttpEndpointInfo (some (ascii "b")) =
        .ret result.state.connectionInfo.endpointInfo := by
  have evaluated : secondServed ["shop", "b"] = .ret (.continueReading,
      { (hostsConnection []).connectionInfo with
        endpointInfo := some shopEndpoint },
      some ['b'], some catchAllEndpoint) := by
    decide +kernel
  obtain ⟨state, result, reader, headers, buf, run, stepped, read, filled,
    stated, connection, _⟩ := secondServed_run evaluated
  obtain ⟨_, _, refilled, restated, byHost⟩ := served_by_host_iff run stepped read
  cases filled.symm.trans refilled
  cases stated.symm.trans restated
  refine ⟨state, result, run, stepped, byHost.mpr ?_⟩
  rw [connection]
  intro current cached claimed
  cases cached
  exact absurd claimed (by decide +kernel)

/-- The endpoint without a name stays on the connection and serves a host that
another endpoint stands first for. -/
theorem catchAll_keeps_serving :
    ∃ state result reader headers buf,
      Run KeptStep (fun _ _ => True) (hostsConnection ["b", "shop"]) state ∧
      readAndDispatch {} state = .ret result ∧
      state.reader.readHeaders = .ret (reader, .ok headers) ∧
      reader.buffer.getData = .ret buf ∧
      statedHost headers buf = .ret (some "shop".toList) ∧
      result.state.connectionInfo.endpointInfo = some catchAllEndpoint ∧
      hostsListener.getHttpEndpointInfo (some (ascii "shop")) = .ret (some shopEndpoint) := by
  have evaluated : secondServed ["b", "shop"] = .ret (.continueReading,
      { (hostsConnection []).connectionInfo with
        endpointInfo := some catchAllEndpoint },
      some "shop".toList, some catchAllEndpoint) := by
    decide +kernel
  obtain ⟨state, result, reader, headers, buf, run, stepped, read, filled,
    stated, _, served⟩ := secondServed_run evaluated
  exact ⟨state, result, reader, headers, buf, run, stepped, read, filled,
    stated, served, by decide +kernel⟩

end

end ReverseProxy
