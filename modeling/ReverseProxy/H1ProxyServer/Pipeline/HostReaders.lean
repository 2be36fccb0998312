import ReverseProxy.H1ProxyServer.Pipeline.VirtualHosts
import ReverseProxy.H1ProxyServer.RequestFraming
import ReverseProxy.H1ProxyServer.UpstreamHead
import ReverseProxy.H1Utils.FoundHeaders

/-!
# The readers of `Host`

The endpoint is resolved from the last `Host` line, without trimming and up to
the port; the OAuth gate takes the first one, trimmed; the upstream is sent all
of them, or what the configuration puts in their place.
-/

namespace ReverseProxy

open Library Rfc7230 Http1Headers Outcome

/-- The name in front of the port. -/
def withoutPort (host : Str) : Str := host.takeWhile (· != ':')

section

variable [SliceOfU8Ext]

/-- The host out of which `RequestFacts::read` builds the base URL. -/
def issuerHost (info : HttpEndpointInfo) (headers : Http1Headers)
    (buffer : Bytes) : Outcome Str := do
  let host ← headers.findHeaderValueStr buffer hostHeader
  return host.getD info.hostEndpoint.src

variable [StrUtils] {head : MessageHead} {rest : Bytes} {headers : Http1Headers}

section

variable (accepted : parse (head.bytes ++ rest) = .ret (some headers))

include accepted

theorem statedHost_eq :
    statedHost headers (head.bytes ++ rest) =
      match (rawValues hostHeader head.lines).getLast? with
      | none => .ret none
      | some value => do
        let octets ← recordedOctets value
        return (fromUtf8 octets).map withoutPort := by
  rw [statedHost]
  cases last : (rawValues hostHeader head.lines).getLast? with
  | none =>
    rw [show headers.hostValue = none from
      valueOf_eq_none accepted (show (rawValues RangeHeader.host.name
          head.lines).getLast? = none from last)]
  | some value =>
    obtain ⟨range, recorded, sliced⟩ := slice_valueOf accepted
        (show (rawValues RangeHeader.host.name
          head.lines).getLast? = some value from last)
    rw [show headers.hostValue = some range from recorded]
    dsimp only
    rw [sliced]
    rfl

/-- The endpoint is resolved by the name `name`. -/
theorem statedHost_eq_iff {name : Str} :
    statedHost headers (head.bytes ++ rest) = .ret (some name) ↔
      ∃ octet text, (rawValues hostHeader head.lines).getLast? =
        some (octet :: asBytes text) ∧ withoutPort text = name := by
  rw [statedHost_eq accepted]
  cases (rawValues hostHeader head.lines).getLast? with
  | none => simp
  | some value =>
    cases value with
    | nil => simp [recordedOctets]
    | cons octet octets =>
      simp only [recordedOctets, bind_ret,
        pure_eq, ret.injEq, Option.map_eq_some_iff,
        Option.some.injEq, List.cons.injEq]
      constructor
      · rintro ⟨text, decoded, named⟩
        exact ⟨octet, text, ⟨rfl, (asBytes_of_fromUtf8 decoded).symm⟩, named⟩
      · rintro ⟨_, text, ⟨_, rfl⟩, named⟩
        exact ⟨text, fromUtf8_asBytes text, named⟩

theorem issuerHost_eq_iff {info : HttpEndpointInfo} {host : Str} :
    issuerHost info headers (head.bytes ++ rest) = .ret host ↔
      match (rawValues hostHeader head.lines).head? with
      | none => host = info.hostEndpoint.src
      | some value => ∃ octet octets, value = octet :: octets ∧
          host = ((fromUtf8 octets).map trim).getD info.hostEndpoint.src := by
  rw [issuerHost, findHeaderValueStr_eq accepted (by decide)]
  cases (rawValues hostHeader head.lines).head? with
  | none => simp [eq_comm]
  | some value =>
    cases value with
    | nil => simp [valueText]
    | cons octet octets => simp [valueText, eq_comm]

end

/-! ## One host for all readers -/

variable [Platform]

/-- For the head the parser accepts in the buffer, the endpoint is resolved by
the name of a host, the issuer is built out of that host, and the upstream
reads that host alone in what it is sent. -/
def OneHost (context : CompileContext) (info : HttpEndpointInfo) (src : Bytes) : Prop :=
  ∀ headers, parse src = .ret (some headers) →
    ∃ host, statedHost headers src = .ret (some (withoutPort host)) ∧
      issuerHost info headers src = .ret host ∧ SendsLines context src headers fun lines =>
          fieldValues hostHeader lines = [asBytes host]

/-- What the lines of the head and the configuration have to satisfy for the
readers to have this host in common. -/
structure HostInCommon (context : CompileContext) (info : HttpEndpointInfo)
    (head : MessageHead) (rest : Bytes) (host : Str) : Prop where
  last : ∃ octet text, (rawValues hostHeader head.lines).getLast? =
    some (octet :: asBytes text) ∧ withoutPort text = withoutPort host
  first : ∃ octet octets, (rawValues hostHeader head.lines).head? =
    some (octet :: octets) ∧ host = ((fromUtf8 octets).map trim).getD info.hostEndpoint.src
  sent : HeadCompiles context head rest → ∀ configured,
    filledHeaders context head rest context.kind.modifyHeaders.addHeaders = some configured →
      fieldValues hostHeader (upstreamLines context head configured) = [asBytes host]

theorem hostInCommon_iff {context : CompileContext} {info : HttpEndpointInfo}
    (accepted : parse (head.bytes ++ rest) = .ret (some headers)) {host : Str} :
    HostInCommon context info head rest host ↔
      statedHost headers (head.bytes ++ rest) = .ret (some (withoutPort host)) ∧
        issuerHost info headers (head.bytes ++ rest) = .ret host ∧
          SendsLines context (head.bytes ++ rest) headers fun lines =>
            fieldValues hostHeader lines = [asBytes host] := by
  rw [statedHost_eq_iff accepted, issuerHost_eq_iff accepted, sendsLines_iff accepted]
  constructor
  · rintro ⟨last, ⟨octet, octets, first, same⟩, sent⟩
    refine ⟨last, ?_, sent⟩
    rw [first]
    exact ⟨octet, octets, rfl, same⟩
  · rintro ⟨last, first, sent⟩
    refine ⟨last, ?_, sent⟩
    cases found : (rawValues hostHeader head.lines).head? with
    | none =>
      obtain ⟨_, _, present, _⟩ := last
      rw [List.head?_eq_none_iff.mp found] at present
      cases present
    | some value =>
      rw [found] at first
      obtain ⟨octet, octets, rfl, same⟩ := first
      exact ⟨octet, octets, rfl, same⟩

theorem oneHost_iff_hostInCommon (context : CompileContext)
    (info : HttpEndpointInfo) (src : Bytes) :
    OneHost context info src ↔
      ∀ (head : MessageHead) (rest : Bytes), src = head.bytes ++ rest →
        Passable head rest → ∃ host, HostInCommon context info head rest host := by
  constructor
  · rintro one head rest rfl passable
    obtain ⟨headers, accepted⟩ := parse_accepts_iff.mpr passable
    obtain ⟨host, agrees⟩ := one headers accepted
    exact ⟨host, (hostInCommon_iff accepted).mpr agrees⟩
  · intro common headers accepted
    obtain ⟨head, rest, rfl⟩ := exists_head_of_parse accepted
    obtain ⟨host, agrees⟩ := common head rest rfl
      (parse_accepts_iff.mp ⟨headers, accepted⟩)
    exact ⟨host, (hostInCommon_iff accepted).mp agrees⟩

end

/-! ## Endpoints that pass `Host` on -/

section

attribute [local instance] linearSearch asciiCase barePlatform

private def hostEndpoint : HttpEndpointInfo :=
  { hostEndpoint := { src := "a:80".toList, port := some 80, index := some 1 }
    listenEndpointType := .http1 }

private def hostContext : CompileContext :=
  { kind := .request hostEndpoint
    connectionInfo :=
      { cnUserName := none
        connectionIp := none
        endpointInfo := some hostEndpoint
        listenConfig := { endpoints := [hostEndpoint], listenEndpointType := .http1 } }
    identity := none
    mcpPath := none
    dynamicProxyHostOverride := none }

private def twoHosts : Bytes := ascii "GET / HTTP/1.1\r\nHost: evil\r\nHost: a\r\n\r\n"

private def readHosts (src : Bytes) :
    Outcome (Option (Option Str × Str × Option Bytes)) := do
  match ← parse src with
  | none => return none
  | some headers =>
    let stated ← statedHost headers src
    let issuer ← issuerHost hostEndpoint headers src
    match ← compileHeaders hostContext src headers with
    | .error _ => return some (stated, issuer, none)
    | .ok compiled => return some (stated, issuer, some compiled.head)

/-- Of two hosts the last resolves the endpoint, the first names the issuer and
the upstream is sent both. -/
theorem two_hosts_are_read_apart :
    readHosts twoHosts = .ret (some (some "a".toList, "evil".toList, some twoHosts)) ∧
      ¬ OneHost hostContext hostEndpoint twoHosts := by
  have apart : readHosts twoHosts =
      .ret (some (some "a".toList, "evil".toList, some twoHosts)) := by
    decide +kernel
  refine ⟨apart, ?_⟩
  intro one
  simp only [readHosts, bind_eq_ret_iff] at apart
  obtain ⟨result, parsed, read⟩ := apart
  cases result with
  | none => cases read
  | some headers =>
    obtain ⟨host, stated, issuer, _⟩ := one headers parsed
    simp only [stated, issuer, bind_ret, bind_eq_ret_iff] at read
    obtain ⟨compiled, _, read⟩ := read
    have same : withoutPort host = "a".toList ∧ host = "evil".toList := by
      cases compiled with
      | error err => simp at read
      | ok compiled =>
        simp only [pure_eq, ret.injEq, Option.some.injEq, Prod.mk.injEq] at read
        exact ⟨read.1, read.2.1⟩
    obtain ⟨name, rfl⟩ := same
    revert name
    decide

end

end ReverseProxy
