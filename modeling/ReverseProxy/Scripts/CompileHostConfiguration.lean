import ReverseProxy.Configurations.ListenConfiguration
import ReverseProxy.OAuth.OAuthCore

/-!
# Compiling the settings of one host

A host of the settings is compiled into an endpoint and merged into what is known
of its port.  The scripts that look ids up in the rest of the settings file
enter as functions of the host's settings.
-/

namespace ReverseProxy

/-! ## Settings of a host -/

inductive EndpointTypeSettings where
  | http1
  | http2
  | https1
  | https2
  | tcp
  | mcp
deriving DecidableEq, Repr

structure EndpointSettings where
  endpointType : Str
  sslCertificate : Option Str := none
  clientCertificateCa : Option Str := none
  googleAuth : Option Str := none
  oauth : Option Str := none
  whitelistedIp : Option Str := none
  templateId : Option Str := none
  allowedUsers : Option Str := none
  injectCountry : Option Bool := none
  keepAlive : Option Bool := none
  hsts : Option Bool := none
  modifyRequestHeaders : ModifyHeadersConfig := {}
  modifyResponseHeaders : ModifyHeadersConfig := {}
deriving DecidableEq, Repr

/-- The name `http1` is read as the HTTP/1 endpoint behind TLS. -/
def EndpointSettings.getEndpointType (settings : EndpointSettings) :
    Except String EndpointTypeSettings :=
  if settings.endpointType = "http".toList then .ok .http1
  else if settings.endpointType = "http2".toList then .ok .http2
  else if settings.endpointType = "https".toList then .ok .https1
  else if settings.endpointType = "http1".toList then .ok .https1
  else if settings.endpointType = "https2".toList then .ok .https2
  else if settings.endpointType = "tcp".toList then .ok .tcp
  else if settings.endpointType = "mcp".toList then .ok .mcp
  else
    .error ("Unknown endpoint type: '" ++ String.ofList settings.endpointType ++ "'")

structure LocationSettings where
  path : Option Str := none
  proxyPassTo : Option Str := none
  locationType : Option Str := none
  defaultFile : Option Str := none
  statusCode : Option Nat := none
  contentType : Option Str := none
  body : Option Str := none
  whitelistedIp : Option Str := none
  authHeader : Option Str := none
  allowedHosts : Option (List Str) := none
deriving DecidableEq, Repr

structure HostSettings where
  endpoint : EndpointSettings
  locations : List LocationSettings := []
deriving DecidableEq, Repr

/-! ## The endpoint of a host -/

/-- The scripts an endpoint is compiled with.  `getEndpointModifyHeaders`
gives the rules for requests and those for responses. -/
structure HostScripts where
  getEndpointWhiteListedIp : HostSettings → Except String (Option Str) := fun _ => .ok none
  getEndpointUsersList : HostSettings → Except String (Option Str) := fun _ => .ok none
  getEndpointModifyHeaders : HostSettings → ModifyHeadersConfig × ModifyHeadersConfig :=
    fun _ => ({}, {})
  makeSureSslCertExists : HostSettings → Except String Str := fun _ => .ok "self_signed".toList
  makeSureClientCaExists : HostSettings → Except String (Option Str) := fun _ => .ok none
  getGoogleAuthCredentials : HostSettings → Except String (Option Str) := fun _ => .ok none
  getOauthCredentials : HostSettings → Except String (Option Str) := fun _ => .ok none
  compileLocationProxyPassTo : LocationSettings → Str → Except String ProxyPassLocationConfig
  tryParse : Str → Except String MyReverseProxyRemoteEndpoint

namespace HostScripts

variable (scripts : HostScripts) (hostEndpoint : EndpointHttpHostString)
  (hostSettings : HostSettings)

/-- Credentials and certificates are looked up for endpoints behind TLS. -/
def tlsSettings (httpType : ListenHttpEndpointType) :
    Except String (Option Str × Option Str × Option Str) :=
  if httpType.isHttpsOrMcp then do
    let sslCertId ← scripts.makeSureSslCertExists hostSettings
    let clientCertCa ← scripts.makeSureClientCaExists hostSettings
    let gAuth ← scripts.getGoogleAuthCredentials hostSettings
    return (gAuth, some sslCertId, clientCertCa)
  else
    return (none, none, none)

/-- The byte pipeline of HTTP/1 has no upstream that speaks HTTP/2. -/
def compileLocation (httpType : ListenHttpEndpointType) (locationSettings : LocationSettings) :
    Except String ProxyPassLocationConfig := do
  let location ← scripts.compileLocationProxyPassTo locationSettings hostEndpoint.src
  match location.proxyPassTo with
  | .mcpHttp2 _ =>
    if httpType.isHttp1OrMcp then
      .error ("Endpoint '" ++ String.ofList hostEndpoint.src ++ "' is 'type: " ++ httpType.asStr ++
        "' (http/1), but its location '" ++ String.ofList location.path ++
        "' is 'type: mcp-h2', which requires an http/2 upstream. Use " ++
        "'type: mcp' here, or move the location to an endpoint of " ++
        "'type: http2' / 'type: https2'")
    else
      return location
  | _ => return location

/-- An endpoint with `oauth` never passes the bearer token on. -/
def requestHeaders (oauth : Option Str) : ModifyHeadersConfig :=
  let config := (scripts.getEndpointModifyHeaders hostSettings).1
  if oauth.isSome then
    { config with remove := config.remove.insert "authorization".toList }
  else
    config

def compileHttpConfiguration (httpType : ListenHttpEndpointType) :
    Except String HttpEndpointInfo := do
  let endpointWhitelistedIp ← scripts.getEndpointWhiteListedIp hostSettings
  let allowedUserList ← scripts.getEndpointUsersList hostSettings
  let tls ← scripts.tlsSettings hostSettings httpType
  let oauth ← scripts.getOauthCredentials hostSettings
  if oauth.isSome && httpType == .mcp then
    .error ("Endpoint '" ++ String.ofList hostEndpoint.src ++
      "' is 'type: mcp', which is a raw TCP bridge with no HTTP layer, so " ++
      "'oauth' can not be applied to it. Use 'type: https' on the endpoint " ++
      "with a location of 'type: mcp' instead")
  else
    let locations ← hostSettings.locations.mapM (scripts.compileLocation hostEndpoint httpType)
    return {
      hostEndpoint
      listenEndpointType := httpType
      injectCountry := hostSettings.endpoint.injectCountry.getD false
      gAuth := tls.1
      oauth
      sslCertificateId := tls.2.1
      clientCertificateId := tls.2.2
      locations
      allowedUserListId := allowedUserList
      modifyRequestHeaders := scripts.requestHeaders hostSettings oauth
      modifyResponseHeaders := (scripts.getEndpointModifyHeaders hostSettings).2
      whitelistedIpListId := endpointWhitelistedIp
      keepAlive := hostSettings.endpoint.keepAlive.getD true
      hsts := hostSettings.endpoint.hsts.getD false }

/-- `TcpEndpointHostConfig::new`. -/
def newTcpEndpoint : Except String TcpEndpointHostConfig :=
  match hostSettings.locations.head? with
  | none =>
    .error ("No location found for tcp host " ++ String.ofList hostEndpoint.src)
  | some locationSettings =>
    match locationSettings.proxyPassTo with
    | none => .error "proxy_pass_to is required for tcp location type"
    | some proxyPassTo => do
      let ipWhiteListId ← scripts.getEndpointWhiteListedIp hostSettings
      let remoteHost ← scripts.tryParse proxyPassTo
      return { hostEndpoint, remoteHost, ipWhiteListId }

variable {scripts hostEndpoint hostSettings}

theorem compileHttpConfiguration_names {httpType : ListenHttpEndpointType} {info : HttpEndpointInfo}
    (compiled : scripts.compileHttpConfiguration hostEndpoint hostSettings httpType = .ok info) :
    info.hostEndpoint = hostEndpoint ∧ info.listenEndpointType = httpType := by
  unfold compileHttpConfiguration at compiled
  obtain ⟨_, _, compiled⟩ := bind_eq_ok_iff.mp compiled
  obtain ⟨_, _, compiled⟩ := bind_eq_ok_iff.mp compiled
  obtain ⟨_, _, compiled⟩ := bind_eq_ok_iff.mp compiled
  obtain ⟨_, _, compiled⟩ := bind_eq_ok_iff.mp compiled
  split at compiled
  · cases compiled
  · obtain ⟨_, _, compiled⟩ := bind_eq_ok_iff.mp compiled
    cases compiled
    exact ⟨rfl, rfl⟩

theorem newTcpEndpoint_names {config : TcpEndpointHostConfig}
    (compiled : scripts.newTcpEndpoint hostEndpoint hostSettings =
      .ok config) : config.hostEndpoint = hostEndpoint := by
  unfold newTcpEndpoint at compiled
  split at compiled
  · cases compiled
  split at compiled
  · cases compiled
  obtain ⟨_, _, compiled⟩ := bind_eq_ok_iff.mp compiled
  obtain ⟨_, _, compiled⟩ := bind_eq_ok_iff.mp compiled
  cases compiled
  rfl

end HostScripts

/-! ## The configuration of the port -/

section

variable (scripts : HostScripts) (hostEndpoint : EndpointHttpHostString)
  (hostSettings : HostSettings)

/-- What the HTTP types do. -/
def compileAndMerge (existing : Option ListenConfiguration) (httpType : ListenHttpEndpointType) :
    Except String HttpListenPortConfiguration := do
  let httpEndpointInfo ← scripts.compileHttpConfiguration hostEndpoint hostSettings httpType
  mergeHttpIntoExisting existing httpEndpointInfo

def compileHostConfiguration (existing : Option ListenConfiguration) :
    Except String ListenConfiguration := do
  match ← hostSettings.endpoint.getEndpointType with
  | .http1 =>
    return .http (← compileAndMerge scripts hostEndpoint hostSettings existing .http1)
  | .http2 =>
    return .http (← compileAndMerge scripts hostEndpoint hostSettings existing .http2)
  | .https1 =>
    return .http (← compileAndMerge scripts hostEndpoint hostSettings existing .https1)
  | .https2 =>
    return .http (← compileAndMerge scripts hostEndpoint hostSettings existing .https2)
  | .tcp => return .tcp (← scripts.newTcpEndpoint hostEndpoint hostSettings)
  | .mcp =>
    return .mcp (← compileAndMerge scripts hostEndpoint hostSettings existing .mcp)

end

/-! ## Compiling and merging apart

The endpoint of a host does not depend on what its port has already. -/

def ListenHttpEndpointType.settings :
    ListenHttpEndpointType → EndpointTypeSettings
  | http1 => .http1
  | http2 => .http2
  | https1 => .https1
  | https2 => .https2
  | mcp => .mcp

theorem ListenHttpEndpointType.settings_ne_tcp
    (httpType : ListenHttpEndpointType) : httpType.settings ≠ .tcp := by
  cases httpType <;> decide

/-- The variant is chosen by the host that is merged last. -/
def ListenConfiguration.ofHttp (last : ListenHttpEndpointType)
    (config : HttpListenPortConfiguration) : ListenConfiguration :=
  match last with
  | .mcp => .mcp config
  | _ => .http config

namespace ListenEndpoint

def hostEndpoint : ListenEndpoint → EndpointHttpHostString
  | .http info => info.hostEndpoint
  | .tcp config => config.hostEndpoint

def endpointType : ListenEndpoint → EndpointTypeSettings
  | .http info => info.listenEndpointType.settings
  | .tcp _ => .tcp

/-- A TCP endpoint takes the place of whatever the port had. -/
def mergeInto (existing : Option ListenConfiguration) :
    ListenEndpoint → Except String ListenConfiguration
  | .http info => do
    return .ofHttp info.listenEndpointType (← mergeHttpIntoExisting existing info)
  | .tcp config => .ok (.tcp config)

end ListenEndpoint

def compileEndpoint (scripts : HostScripts)
    (hostEndpoint : EndpointHttpHostString) (hostSettings : HostSettings) :
    Except String ListenEndpoint := do
  match ← hostSettings.endpoint.getEndpointType with
  | .http1 => return .http (← scripts.compileHttpConfiguration hostEndpoint
      hostSettings .http1)
  | .http2 => return .http (← scripts.compileHttpConfiguration hostEndpoint
      hostSettings .http2)
  | .https1 => return .http (← scripts.compileHttpConfiguration hostEndpoint
      hostSettings .https1)
  | .https2 => return .http (← scripts.compileHttpConfiguration hostEndpoint
      hostSettings .https2)
  | .tcp => return .tcp (← scripts.newTcpEndpoint hostEndpoint hostSettings)
  | .mcp => return .http (← scripts.compileHttpConfiguration hostEndpoint
      hostSettings .mcp)

section

variable {scripts : HostScripts} {hostEndpoint : EndpointHttpHostString}
  {hostSettings : HostSettings}

theorem compileEndpoint_names {endpoint : ListenEndpoint}
    (compiled : compileEndpoint scripts hostEndpoint hostSettings = .ok endpoint) :
    endpoint.hostEndpoint = hostEndpoint ∧
      hostSettings.endpoint.getEndpointType = .ok endpoint.endpointType := by
  obtain ⟨endpointType, found, compiled⟩ := bind_eq_ok_iff.mp compiled
  have ofHttp : ∀ {httpType : ListenHttpEndpointType},
      (scripts.compileHttpConfiguration hostEndpoint hostSettings httpType >>=
        fun info => pure (ListenEndpoint.http info)) = .ok endpoint →
      endpoint.hostEndpoint = hostEndpoint ∧ endpoint.endpointType = httpType.settings := by
    intro httpType compiled
    obtain ⟨info, compiled, made⟩ := bind_eq_ok_iff.mp compiled
    obtain ⟨named, typed⟩ := HostScripts.compileHttpConfiguration_names compiled
    cases made
    exact ⟨named, congrArg ListenHttpEndpointType.settings typed⟩
  cases endpointType with
  | tcp =>
    obtain ⟨config, configured, made⟩ := bind_eq_ok_iff.mp compiled
    cases made
    exact ⟨HostScripts.newTcpEndpoint_names configured, found⟩
  | _ =>
    obtain ⟨named, typed⟩ := ofHttp compiled
    rw [typed]
    exact ⟨named, found⟩

theorem compileHostConfiguration_eq (existing : Option ListenConfiguration) :
    compileHostConfiguration scripts hostEndpoint hostSettings existing =
      compileEndpoint scripts hostEndpoint hostSettings >>= (·.mergeInto existing) := by
  have ofHttp : ∀ (httpType : ListenHttpEndpointType),
      (compileAndMerge scripts hostEndpoint hostSettings existing httpType >>=
        fun config => pure (ListenConfiguration.ofHttp httpType config)) =
      (scripts.compileHttpConfiguration hostEndpoint hostSettings httpType >>=
        fun info => pure (ListenEndpoint.http info)) >>= (·.mergeInto existing) := by
    intro httpType
    unfold compileAndMerge
    cases compiled : scripts.compileHttpConfiguration hostEndpoint hostSettings httpType with
    | error err => rfl
    | ok info =>
      have typed := (HostScripts.compileHttpConfiguration_names compiled).2
      simp only [bind, Except.bind, pure, Except.pure, ListenEndpoint.mergeInto, typed]
  unfold compileHostConfiguration compileEndpoint
  cases hostSettings.endpoint.getEndpointType with
  | error err => rfl
  | ok endpointType =>
    cases endpointType with
    | tcp =>
      cases scripts.newTcpEndpoint hostEndpoint hostSettings with
      | error err => rfl
      | ok config => rfl
    | http1 => exact ofHttp .http1
    | http2 => exact ofHttp .http2
    | https1 => exact ofHttp .https1
    | https2 => exact ofHttp .https2
    | mcp => exact ofHttp .mcp

end

end ReverseProxy
