import ReverseProxy.H1ProxyServer.CompileHeaders

/-!
# Access lists

The IP white lists and the lists of allowed users an endpoint or a location
names.  A list that is not configured admits nobody; an empty IP list admits
everybody.
-/

namespace ReverseProxy

inductive WhitelistedIp where
  | singleIp (ip : BitVec 32)
  | range (ipFrom ipTo : BitVec 32)
deriving DecidableEq, Repr

/-- `IntoIp for IpAddr`: addresses of version 6 panic. -/
def getIpValue : IpAddr → Outcome (BitVec 32)
  | .v4 address => .ret address
  | .v6 _ => .panic

def WhitelistedIp.isMyIp (item : WhitelistedIp) (otherIp : IpAddr) :
    Outcome Bool := do
  let value ← getIpValue otherIp
  match item with
  | .singleIp ip => return ip == value
  | .range ipFrom ipTo =>
    return decide (ipFrom ≤ value) && decide (value ≤ ipTo)

/-- The loop of `is_whitelisted` over a list that is not empty. -/
def anyIsMyIp (ip : IpAddr) : List WhitelistedIp → Outcome Bool
  | [] => .ret false
  | item :: items => do
    if ← item.isMyIp ip then return true else anyIsMyIp ip items

def isWhitelisted (items : List WhitelistedIp) (ip : IpAddr) : Outcome Bool :=
  if items = [] then .ret true else anyIsMyIp ip items

/-- `WhiteListedIpListConfigurations`. -/
abbrev WhiteListedIpLists := List (Str × List WhitelistedIp)

def WhiteListedIpLists.isWhiteListed (lists : WhiteListedIpLists) (id : Str)
    (ip : IpAddr) : Outcome Bool :=
  match lists.lookup id with
  | some items => isWhitelisted items ip
  | none => .ret false

/-- A check against a list that applies only to a known address. -/
def WhiteListedIpLists.admits (lists : WhiteListedIpLists)
    (listId : Option Str) (clientIp : Option IpAddr) : Outcome Bool :=
  match listId, clientIp with
  | some listId, some clientIp => lists.isWhiteListed listId clientIp
  | _, _ => .ret true

abbrev AllowedUsersList := List (Str × List Str)

def AllowedUsersList.isAllowed (lists : AllowedUsersList) (id user : Str) :
    Bool :=
  match lists.lookup id with
  | some users => users.contains user
  | none => false

/-- `user_is_allowed`: a request without an identity is on no list. -/
def HttpEndpointInfo.userIsAllowed (info : HttpEndpointInfo)
    (lists : AllowedUsersList) (identity : Option HttpProxyPassIdentity) :
    Bool :=
  match info.allowedUserListId with
  | none => true
  | some listId =>
    match identity with
    | none => false
    | some identity => lists.isAllowed listId identity.asStr

/-- The checks of an endpoint both pipelines make before they look at the
request: the authority of the client certificate, then the IP list.  They name
the two refusals differently. -/
def WhiteListedIpLists.refusal {ε : Type} (lists : WhiteListedIpLists)
    (info : HttpEndpointInfo) (certificate : Option ClientCertificateData)
    (clientIp : Option IpAddr) (misdirected restricted : ε) :
    Outcome (Option ε) := do
  if !info.connectionSatisfiesClientCert (certificate.map (·.caId)) then
    return some misdirected
  else if ← lists.admits info.whitelistedIpListId clientIp then
    return none
  else
    return some restricted

theorem WhiteListedIpLists.refusal_eq_none_iff {ε : Type}
    {lists : WhiteListedIpLists} {info : HttpEndpointInfo}
    {certificate : Option ClientCertificateData} {clientIp : Option IpAddr}
    {misdirected restricted : ε} :
    lists.refusal info certificate clientIp misdirected restricted = .ret none ↔
      info.connectionSatisfiesClientCert (certificate.map (·.caId)) = true ∧
        lists.admits info.whitelistedIpListId clientIp = .ret true := by
  unfold refusal
  cases satisfied : info.connectionSatisfiesClientCert (certificate.map (·.caId)) with
  | false => simp
  | true =>
    simp only [Bool.not_true, Bool.false_eq_true, if_false, Outcome.bind_eq_ret_iff, true_and]
    constructor
    · rintro ⟨admitted, answered, continued⟩
      cases admitted with
      | false => simp at continued
      | true => exact answered
    · intro answered
      exact ⟨true, answered, rfl⟩

end ReverseProxy
