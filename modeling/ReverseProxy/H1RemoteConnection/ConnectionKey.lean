import ReverseProxy.H1ProxyServer.Pipeline.Reader
import ReverseProxy.Library.Split

/-!
# Keys of upstream connections

The pool of upstream connections is a map from texts.  The text names the
protocol, the way to the remote endpoint and the endpoint, with bars between
them; the scheme is part of it only on the direct way.
-/

namespace ReverseProxy

open Library

/-- What `RemoteEndpointOwned` of `rust_extensions` reads from its text. -/
class RemoteEndpoints where
  getScheme : RemoteEndpoint → Option Scheme
  getHostPort : RemoteEndpoint → Str

export RemoteEndpoints (getScheme getHostPort)

inductive UpstreamProtocol where
  | h1
  | mcpH1
  | mcpH2
  | h2
  | udsH1
  | udsH2
deriving DecidableEq, Repr

/-- The settings of a location whose requests go over the network; all others
are answered before a connection is looked for. -/
structure UpstreamTarget where
  protocol : UpstreamProtocol
  remoteHost : MyReverseProxyRemoteEndpoint
deriving DecidableEq, Repr

def ProxyPassToConfig.target : ProxyPassToConfig → Option UpstreamTarget
  | http1 remoteHost => some ⟨.h1, remoteHost⟩
  | mcpHttp1 remoteHost => some ⟨.mcpH1, remoteHost⟩
  | mcpHttp2 remoteHost => some ⟨.mcpH2, remoteHost⟩
  | http2 remoteHost => some ⟨.h2, remoteHost⟩
  | unixHttp1 remoteHost => some ⟨.udsH1, remoteHost⟩
  | unixHttp2 remoteHost => some ⟨.udsH2, remoteHost⟩
  | _ => none

/-! ## The key -/

/-- The name of a scheme as `Debug` prints it. -/
def Scheme.debug : Scheme → String
  | http => "Http"
  | https => "Https"
  | ws => "Ws"
  | wss => "Wss"
  | other => "UnixSocket"

def debugScheme : Option Scheme → Str
  | none => "None".toList
  | some scheme => "Some(".toList ++ scheme.debug.toList ++ [')']

section

variable [RemoteEndpoints]

def remoteHostKey (protocol : Str) : MyReverseProxyRemoteEndpoint → Str
  | .direct remoteHost =>
    protocol ++ '|' :: (debugScheme (getScheme remoteHost) ++ '|' :: getHostPort remoteHost)
  | .overSsh sshCredentials remoteHost =>
    protocol ++ '|' :: ("ssh:".toList ++ sshCredentials ++ '|' :: getHostPort remoteHost)
  | .gateway id remoteHost =>
    protocol ++ '|' :: ("gw:".toList ++ id ++ '|' :: getHostPort remoteHost)

def mcpKey (protocol : Str) (remoteHost : MyReverseProxyRemoteEndpoint) :
    Str :=
  remoteHostKey protocol remoteHost ++ '|' :: remoteHost.getPathAndQuery

def connectionKey (target : UpstreamTarget) : Str :=
  match target.protocol with
  | .h1 => remoteHostKey "h1".toList target.remoteHost
  | .mcpH1 => mcpKey "mcp-h1".toList target.remoteHost
  | .mcpH2 => mcpKey "mcp-h2".toList target.remoteHost
  | .h2 => remoteHostKey "h2".toList target.remoteHost
  | .udsH1 => remoteHostKey "uds-h1".toList target.remoteHost
  | .udsH2 => remoteHostKey "uds-h2".toList target.remoteHost

end

/-! ## What a key stands for -/

/-- The way to a remote endpoint. -/
inductive UpstreamRoute where
  | direct
  | ssh (credentials : Str)
  | gateway (id : Str)
deriving DecidableEq, Repr

def MyReverseProxyRemoteEndpoint.route : MyReverseProxyRemoteEndpoint → UpstreamRoute
  | gateway id _ => .gateway id
  | overSsh sshCredentials _ => .ssh sshCredentials
  | direct _ => .direct

def MyReverseProxyRemoteEndpoint.endpoint :
    MyReverseProxyRemoteEndpoint → RemoteEndpoint
  | gateway _ remoteHost => remoteHost
  | overSsh _ remoteHost => remoteHost
  | direct remoteHost => remoteHost

/-- The upstream that settings mean. -/
structure UpstreamIdentity where
  protocol : UpstreamProtocol
  route : UpstreamRoute
  scheme : Option Scheme
  hostPort : Str
  /-- MCP servers on one host differ by their paths. -/
  path : Option Str
deriving DecidableEq, Repr

def UpstreamProtocol.isMcp : UpstreamProtocol → Bool
  | mcpH1 => true
  | mcpH2 => true
  | _ => false

def UpstreamProtocol.keyName : UpstreamProtocol → Str
  | h1 => "h1".toList
  | mcpH1 => "mcp-h1".toList
  | mcpH2 => "mcp-h2".toList
  | h2 => "h2".toList
  | udsH1 => "uds-h1".toList
  | udsH2 => "uds-h2".toList

theorem UpstreamProtocol.keyName_injective :
    Function.Injective UpstreamProtocol.keyName := by
  intro left right same
  revert same
  cases left with
  | h1 | mcpH1 | mcpH2 | h2 | udsH1 | udsH2 =>
    cases right with
    | h1 | mcpH1 | mcpH2 | h2 | udsH1 | udsH2 => decide

theorem UpstreamProtocol.bar_not_mem_keyName (protocol : UpstreamProtocol) :
    '|' ∉ protocol.keyName := by
  cases protocol with
  | h1 | mcpH1 | mcpH2 | h2 | udsH1 | udsH2 => decide

section

variable [RemoteEndpoints]

def UpstreamTarget.identity (target : UpstreamTarget) : UpstreamIdentity :=
  { protocol := target.protocol
    route := target.remoteHost.route
    scheme := getScheme target.remoteHost.endpoint
    hostPort := getHostPort target.remoteHost.endpoint
    path := if target.protocol.isMcp then
      some target.remoteHost.getPathAndQuery else none }

/-- What a key says about the way; the scheme stands for the direct one. -/
def UpstreamIdentity.routeText (identity : UpstreamIdentity) : Str :=
  match identity.route with
  | .direct => debugScheme identity.scheme
  | .ssh credentials => "ssh:".toList ++ credentials
  | .gateway id => "gw:".toList ++ id

def UpstreamIdentity.endText (identity : UpstreamIdentity) : Str :=
  match identity.path with
  | none => identity.hostPort
  | some path => identity.hostPort ++ '|' :: path

theorem remoteHostKey_eq (target : UpstreamTarget) (protocol : Str) :
    remoteHostKey protocol target.remoteHost =
      protocol ++ '|' :: (target.identity.routeText ++ '|' :: target.identity.hostPort) := by
  obtain ⟨_, remoteHost⟩ := target
  cases remoteHost with
  | gateway id remoteHost => rfl
  | overSsh sshCredentials remoteHost => rfl
  | direct remoteHost => rfl

theorem connectionKey_eq (target : UpstreamTarget) :
    connectionKey target = target.protocol.keyName ++
      '|' :: (target.identity.routeText ++ '|' :: target.identity.endText) := by
  have key := remoteHostKey_eq target
  obtain ⟨protocol, remoteHost⟩ := target
  have mcp (name : Str) (isMcp : protocol.isMcp = true) :
      mcpKey name remoteHost = name ++ '|' ::
        ((UpstreamTarget.mk protocol remoteHost).identity.routeText ++
          '|' :: (UpstreamTarget.mk protocol remoteHost).identity.endText) := by
    rw [mcpKey, key]
    simp [UpstreamIdentity.endText, UpstreamTarget.identity, isMcp]
  cases protocol with
  | h1 | h2 | udsH1 | udsH2 => exact key _
  | mcpH1 | mcpH2 => exact mcp _ rfl

/-! ## Keys that keep upstreams apart -/

/-- No bar of the settings can be taken for one of the key. -/
structure UpstreamIdentity.Plain (identity : UpstreamIdentity) : Prop where
  route : '|' ∉ identity.routeText
  hostPort : identity.path ≠ none → '|' ∉ identity.hostPort

omit [RemoteEndpoints] in
theorem debugScheme_cases (scheme : Option Scheme) :
    (∃ rest, debugScheme scheme = 'N' :: rest) ∨ ∃ rest, debugScheme scheme = 'S' :: rest := by
  cases scheme with
  | none => exact .inl ⟨_, rfl⟩
  | some scheme => exact .inr ⟨_, rfl⟩

omit [RemoteEndpoints] in
theorem debugScheme_injective : Function.Injective debugScheme := by
  have names : ∀ {left right : Scheme},
      debugScheme (some left) = debugScheme (some right) → left = right := by
    intro left right
    cases left with
    | http | https | ws | wss | other =>
      cases right with
      | http | https | ws | wss | other => decide
  have named : ∀ scheme : Scheme, debugScheme none ≠ debugScheme (some scheme) := by
    intro scheme
    cases scheme with
    | http | https | ws | wss | other => decide
  intro left right same
  cases left with
  | none =>
    cases right with
    | none => rfl
    | some scheme => exact (named scheme same).elim
  | some scheme =>
    cases right with
    | none => exact (named scheme same.symm).elim
    | some second => rw [names same]

omit [RemoteEndpoints] in
/-- The ways are told apart by how their texts begin. -/
theorem UpstreamIdentity.routeText_eq_iff (left right : UpstreamIdentity) :
    left.routeText = right.routeText ↔ left.route = right.route ∧
      (left.route = .direct → left.scheme = right.scheme) := by
  have direct := debugScheme_cases left.scheme
  have otherDirect := debugScheme_cases right.scheme
  unfold routeText
  cases leftRoute : left.route with
  | direct =>
    cases rightRoute : right.route with
    | direct => simp [debugScheme_injective.eq_iff]
    | ssh credentials =>
      rcases direct with ⟨rest, text⟩ | ⟨rest, text⟩
      · simp [text]
      · simp [text]
    | gateway id =>
      rcases direct with ⟨rest, text⟩ | ⟨rest, text⟩
      · simp [text]
      · simp [text]
  | ssh credentials =>
    cases rightRoute : right.route with
    | direct =>
      rcases otherDirect with ⟨rest, text⟩ | ⟨rest, text⟩
      · simp [text]
      · simp [text]
    | ssh others => simp
    | gateway id => simp
  | gateway id =>
    cases rightRoute : right.route with
    | direct =>
      rcases otherDirect with ⟨rest, text⟩ | ⟨rest, text⟩
      · simp [text]
      · simp [text]
    | ssh credentials => simp
    | gateway other => simp

/-- What a key can tell of an upstream: its scheme only on the direct way. -/
def UpstreamIdentity.keyed (identity : UpstreamIdentity) : UpstreamIdentity :=
  { identity with
    scheme := if identity.route = .direct then identity.scheme else none }

omit [RemoteEndpoints] in
theorem UpstreamIdentity.eq_of_keyed {left right : UpstreamIdentity}
    (keyed : left.keyed = right.keyed) (scheme : left.scheme = right.scheme) :
    left = right := by
  calc
    left = { left.keyed with scheme := left.scheme } := rfl
    _ = { right.keyed with scheme := right.scheme } := by rw [keyed, scheme]
    _ = right := rfl

omit [RemoteEndpoints] in
theorem UpstreamIdentity.keyed_eq_iff (left right : UpstreamIdentity) :
    left.keyed = right.keyed ↔ left.protocol = right.protocol ∧
      left.routeText = right.routeText ∧ left.hostPort = right.hostPort ∧
        left.path = right.path := by
  rw [routeText_eq_iff]
  simp only [keyed, UpstreamIdentity.mk.injEq]
  constructor
  · rintro ⟨protocol, route, scheme, hostPort, path⟩
    refine ⟨protocol, ⟨route, ?_⟩, hostPort, path⟩
    intro direct
    rwa [if_pos direct, if_pos (route ▸ direct)] at scheme
  · rintro ⟨protocol, ⟨route, scheme⟩, hostPort, path⟩
    refine ⟨protocol, route, ?_, hostPort, path⟩
    by_cases direct : left.route = .direct
    · rw [if_pos direct, if_pos (route ▸ direct), scheme direct]
    · rw [if_neg direct, if_neg (route ▸ direct)]

/-- Only MCP targets have a path, so the ends of two keys of one protocol are
of one shape. -/
theorem endText_eq_iff {left right : UpstreamTarget} (protocol : left.protocol = right.protocol)
    (leftPlain : left.identity.Plain) (rightPlain : right.identity.Plain) :
    left.identity.endText = right.identity.endText ↔
      left.identity.hostPort = right.identity.hostPort ∧
        left.identity.path = right.identity.path := by
  have leftBar := leftPlain.hostPort
  have rightBar := rightPlain.hostPort
  unfold UpstreamIdentity.endText
  cases mcp : left.protocol.isMcp with
  | true =>
    have leftPath : left.identity.path =
        some left.remoteHost.getPathAndQuery := by
      simp [UpstreamTarget.identity, mcp]
    have rightPath : right.identity.path =
        some right.remoteHost.getPathAndQuery := by
      simp [UpstreamTarget.identity, ← protocol, mcp]
    rw [leftPath, rightPath]
    dsimp only
    rw [append_cons_inj (leftBar (by simp [leftPath])) (rightBar (by simp [rightPath]))]
    simp
  | false =>
    have leftPath : left.identity.path = none := by
      simp [UpstreamTarget.identity, mcp]
    have rightPath : right.identity.path = none := by
      simp [UpstreamTarget.identity, ← protocol, mcp]
    rw [leftPath, rightPath]
    simp

/-- Two settings without bars share a key exactly if they mean the same
upstream, up to the scheme on a way that is not direct. -/
theorem connectionKey_eq_iff {left right : UpstreamTarget}
    (leftPlain : left.identity.Plain) (rightPlain : right.identity.Plain) :
    connectionKey left = connectionKey right ↔ left.identity.keyed = right.identity.keyed := by
  rw [connectionKey_eq, connectionKey_eq, append_cons_inj left.protocol.bar_not_mem_keyName
      right.protocol.bar_not_mem_keyName,
    append_cons_inj leftPlain.route rightPlain.route,
    UpstreamIdentity.keyed_eq_iff]
  constructor
  · rintro ⟨name, route, rest⟩
    have protocol := UpstreamProtocol.keyName_injective name
    exact ⟨protocol, route, (endText_eq_iff protocol leftPlain rightPlain).mp rest⟩
  · rintro ⟨protocol, route, rest⟩
    have same : left.protocol = right.protocol := protocol
    exact ⟨congrArg _ same, route, (endText_eq_iff same leftPlain rightPlain).mpr rest⟩

end

end ReverseProxy
