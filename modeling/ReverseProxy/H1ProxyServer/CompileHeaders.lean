import Mathlib.Data.Bool.AllAny
import ReverseProxy.Configurations.HttpEndpointInfo

/-!
# Rewriting a message head

`compile_headers` copies the header lines of a parsed head, leaving out the ones
the endpoint removes, and appends the headers the proxy adds.  `Platform` gathers
what the repository takes from elsewhere.
-/

namespace ReverseProxy

inductive NetworkError where
  | timeout (duration : Nat)
  | disconnected
  | ioError (text : Str)
  | otherStr (text : Str)
  | other (text : Str)
  | myHttpClientError (text : Str)
deriving DecidableEq, Repr

def NetworkError.isTimeout : NetworkError → Bool
  | timeout _ => true
  | _ => false

inductive ProxyServerError where
  | networkError (err : NetworkError)
  | parsingPayloadError (text : String)
  | bufferAllocationFail
  | chunkHeaderParseError
  | headersParseError (text : String)
  | canNotConnectToRemoteResource (remoteResource : Str) (err : NetworkError)
  | canNotWriteContentToRemoteConnection (err : NetworkError)
  | httpConfigurationIsNotFound
  | locationIsNotFound
  | notAuthorized
  | dropConnection
  | httpResponse (content : Bytes)
  | proxyToHeaderMissing
  | proxyToHeaderInvalid
  | proxyToHostNotAllowed
  | misdirectedClientCertRequired
deriving DecidableEq, Repr

/-! ## The platform -/

inductive IpAddr where
  | v4 (address : BitVec 32)
  | v6 (address : BitVec 128)
deriving DecidableEq, Repr

inductive ContentToken where
  | text (text : Str)
  | placeholder (name : Str)
deriving DecidableEq, Repr

class Platform where
  displayIp : IpAddr → Str
  displayIp_mem : ∀ {ip : IpAddr} {symbol : Char}, symbol ∈ displayIp ip →
    symbol ∈ "0123456789abcdef.:".toList
  displayIp_ne_nil : ∀ ip : IpAddr, displayIp ip ≠ []
  lookupCountry : IpAddr → Option (UInt8 × UInt8)
  lookupCountry_letters : ∀ {ip : IpAddr} {first second : UInt8},
    lookupCountry ip = some (first, second) →
      (65 ≤ first ∧ first ≤ 90) ∧ (65 ≤ second ∧ second ≤ 90)
  placeholderTokens : Str → List ContentToken
  envVar : Str → Option Str

export Platform (displayIp lookupCountry placeholderTokens envVar)

/-- A platform without a country database, environment or placeholders, used
where a statement is evaluated on a fixed input. -/
@[reducible] def barePlatform : Platform :=
  { displayIp := fun _ => "127.0.0.1".toList
    displayIp_mem := by
      intro ip symbol member
      exact List.all_iff_forall_prop.mp (by decide) symbol member
    displayIp_ne_nil := fun _ => by decide
    lookupCountry := fun _ => none
    lookupCountry_letters := by simp
    placeholderTokens := fun value => [.text value]
    envVar := fun _ => none }

/-! ## Who is asking -/

structure ClientCertificateData where
  caId : Str
  cn : Str
deriving DecidableEq, Repr

inductive HttpProxyPassIdentity where
  | clientCert (data : ClientCertificateData)
  | googleUser (email : Str)
deriving DecidableEq, Repr

def HttpProxyPassIdentity.asStr : HttpProxyPassIdentity → Str
  | clientCert data => data.cn
  | googleUser email => email

structure HttpConnectionInfo where
  cnUserName : Option ClientCertificateData
  connectionIp : Option IpAddr
  endpointInfo : Option HttpEndpointInfo
  listenConfig : HttpListenPortConfiguration
deriving DecidableEq, Repr

/-! ## Values with placeholders -/

/-- A request as `populate_value` reads it. -/
structure HttpHeadersReader where
  httpHeaders : Http1Headers
  payload : Bytes

section

variable [SliceOfU8Ext]

namespace HttpHeadersReader

def getHost (reader : HttpHeadersReader) : Outcome (Option Bytes) := do
  match reader.httpHeaders.hostValue with
  | none => return none
  | some position =>
    let host ← slice reader.payload position.start position.stop
    return some host

def getPathAndQuery (reader : HttpHeadersReader) : Outcome Bytes := do
  let indexStart ← unwrapBytePos reader.payload 32 0
  let indexEnd ← unwrapBytePos reader.payload 32 (indexStart + 1)
  slice reader.payload (indexStart + 1) indexEnd

end HttpHeadersReader

variable [Platform]

def populatePlaceholder (reader : HttpHeadersReader) (connectionInfo : HttpConnectionInfo)
    (identity : Option HttpProxyPassIdentity) (placeholder : Str) :
    Outcome Bytes := do
  if placeholder = "ENDPOINT_IP".toList then
    return asBytes ((connectionInfo.connectionIp.map displayIp).getD [])
  else if placeholder = "CLIENT_CERT_CN".toList then
    return asBytes ((identity.map (·.asStr)).getD [])
  else if placeholder = "PATH_AND_QUERY".toList then
    reader.getPathAndQuery
  else if placeholder = "HOST_PORT".toList then
    let host ← reader.getHost
    return host.getD []
  else if placeholder = "ENDPOINT_SCHEMA".toList then
    if connectionInfo.listenConfig.listenEndpointType.isHttps then
      return ascii "https"
    else
      return ascii "http"
  else
    return asBytes ((envVar placeholder).getD [])

def populateTokens (reader : HttpHeadersReader) (connectionInfo : HttpConnectionInfo)
    (identity : Option HttpProxyPassIdentity) :
    List ContentToken → Outcome Bytes
  | [] => .ret []
  | .text text :: tokens => do
    let rest ← populateTokens reader connectionInfo identity tokens
    return asBytes text ++ rest
  | .placeholder placeholder :: tokens => do
    let value ← populatePlaceholder reader connectionInfo identity placeholder
    let rest ← populateTokens reader connectionInfo identity tokens
    return value ++ rest

/-- `populate_value`. -/
def populateValue (reader : HttpHeadersReader) (connectionInfo : HttpConnectionInfo)
    (identity : Option HttpProxyPassIdentity) (value : Str) : Outcome Bytes :=
  if (Library.indexOf ['$', '\x7b'] value).isNone then .ret (asBytes value)
  else populateTokens reader connectionInfo identity (placeholderTokens value)

/-! ## Building the head -/

inductive H1HeadersKind where
  | request (info : HttpEndpointInfo)
  | response (info : HttpEndpointInfo)

namespace H1HeadersKind

def modifyHeaders : H1HeadersKind → ModifyHeadersConfig
  | request info => info.modifyRequestHeaders
  | response info => info.modifyResponseHeaders

def isRequest : H1HeadersKind → Bool
  | request _ => true
  | response _ => false

/-- Country injection is a setting of requests. -/
def injectCountry : H1HeadersKind → Bool
  | request info => info.injectCountry
  | response _ => false

end H1HeadersKind

/-- The arguments of `compile_headers` besides the parsed head. -/
structure CompileContext where
  kind : H1HeadersKind
  connectionInfo : HttpConnectionInfo
  identity : Option HttpProxyPassIdentity
  mcpPath : Option Str
  dynamicProxyHostOverride : Option Str

namespace CompileContext

/-- Only requests carry the client address on. -/
def clientIp (context : CompileContext) : Option IpAddr :=
  if context.kind.isRequest then context.connectionInfo.connectionIp else none

def skipForDynamicProxy (context : CompileContext) (name : Bytes) : Bool :=
  context.dynamicProxyHostOverride.isSome &&
    (isNamed name (ascii "host") || isNamed name (ascii "proxy-to"))

end CompileContext

/-- The line `Http1HeadersBuilder::push_header` writes. -/
def headerLine (name value : Bytes) : Bytes := name ++ ascii ": " ++ value

def pushHeader (name value : Bytes) : Bytes := headerLine name value ++ httpCrLf

/-- `buffer.split(|b| *b == b' ')` with the second part replaced. -/
def replaceTarget (path : Bytes) : List Bytes → List Bytes
  | method :: _ :: others => method :: path :: others
  | parts => parts

/-- `push_first_line_with_other_path`. -/
def firstLineWithOtherPath (firstLine path : Bytes) : Bytes :=
  [32].intercalate (replaceTarget path (firstLine.splitOn 32))

variable (context : CompileContext)

/-- One copied header line: what is pushed for it, and whether it was an
`X-Forwarded-For` header. -/
def copyHeader (header : Bytes) (headerNameEndPos : Nat) : Bytes × Bool :=
  let headerName := header.take headerNameEndPos
  if context.skipForDynamicProxy headerName ||
      context.kind.modifyHeaders.hasToBeRemoved headerName then
    ([], false)
  else if isNamed headerName (ascii "x-forwarded-for") then
    match context.clientIp with
    | some ip =>
      let value := (fromUtf8 (header.drop (headerNameEndPos + 1))).getD []
      (pushHeader (ascii "X-Forwarded-For")
        (asBytes (trim value) ++ ascii "," ++ asBytes (displayIp ip)), true)
    | none => (header ++ httpCrLf, true)
  else if context.kind.injectCountry && isNamed headerName (ascii "cf-ipcountry") then
    ([], false)
  else
    (header ++ httpCrLf, false)

def noColonMessage : String := "Header does not have end `:` symbol"

def copyHeaders (context : CompileContext) (data : Bytes) :
    Nat → Nat → Bytes → Bool → Outcome (Except ProxyServerError (Bytes × Bool))
  | 0, _, _, _ => .diverge
  | fuel + 1, pos, builder, xffWritten =>
    match findSequencePos data httpCrLf pos with
    | none => .panic
    | some nextPos =>
      if nextPos = pos then .ret (.ok (builder, xffWritten))
      else do
        let header ← slice data pos nextPos
        match findBytePos header 58 0 with
        | none => return .error (.headersParseError noColonMessage)
        | some headerNameEndPos =>
          let copied := copyHeader context header headerNameEndPos
          copyHeaders context data fuel (nextPos + httpCrLf.length)
            (builder ++ copied.1) (xffWritten || copied.2)

/-- The headers the proxy itself writes before the configured ones. -/
def ownHeaders (xffWritten : Bool) : List Bytes :=
  let forwarded := match xffWritten, context.clientIp with
    | false, some ip =>
      [headerLine (ascii "X-Forwarded-For") (asBytes (displayIp ip))]
    | _, _ => []
  let country :=
    if context.kind.injectCountry then
      match context.connectionInfo.connectionIp.bind lookupCountry with
      | some (first, second) =>
        [headerLine (ascii "CF-IPCountry") [first, second]]
      | none => []
    else []
  let host := match context.dynamicProxyHostOverride with
    | some hostOverride => [headerLine (ascii "Host") (asBytes hostOverride)]
    | none => []
  forwarded ++ country ++ host

/-- The configured headers; one whose value is empty before or after the
placeholders are filled in is left out. -/
def addedHeaders (context : CompileContext) (reader : HttpHeadersReader) :
    List (Str × Str) → Outcome (List Bytes)
  | [] => .ret []
  | (name, value) :: others =>
    if value = [] then addedHeaders context reader others
    else do
      let populated ← populateValue reader context.connectionInfo context.identity value
      let rest ← addedHeaders context reader others
      if populated = [] then return rest
      else return headerLine (asBytes name) populated :: rest

def responseHeaders : H1HeadersKind → List Bytes
  | .request _ => []
  | .response info =>
    (if info.keepAlive then []
      else [headerLine (ascii "Connection") (ascii "close")]) ++
    (if info.hsts && info.listenEndpointType.isHttps then
      [headerLine (ascii "Strict-Transport-Security")
        (ascii "max-age=31536000; includeSubDomains; preload")]
      else [])

def compileFirstLine (data : Bytes) (httpHeaders : Http1Headers) : Bytes :=
  match context.mcpPath with
  | some mcpPath =>
    firstLineWithOtherPath (data.take httpHeaders.firstLineEnd) (asBytes mcpPath) ++ httpCrLf
  | none => data.take (httpHeaders.firstLineEnd + httpCrLf.length)

/-- `compile_headers` up to the empty line that closes the head. -/
def buildHead (data : Bytes) (httpHeaders : Http1Headers) :
    Outcome (Except ProxyServerError Bytes) := do
  match ← copyHeaders context data data.length (httpHeaders.firstLineEnd + httpCrLf.length)
      (compileFirstLine context data httpHeaders) false with
  | .error err => return .error err
  | .ok (builder, xffWritten) =>
    let added ← addedHeaders context { httpHeaders, payload := data }
      context.kind.modifyHeaders.addHeaders
    return .ok (builder ++ joinLines (ownHeaders context xffWritten ++ added ++
        responseHeaders context.kind) ++ httpCrLf)

structure CompiledHeaders where
  head : Bytes
  webSocketUpgrade : Bool
deriving DecidableEq, Repr

/-- `compile_headers`; its caller's buffer then drops `http_headers.end`
bytes. -/
def compileHeaders (data : Bytes) (httpHeaders : Http1Headers) :
    Outcome (Except ProxyServerError CompiledHeaders) := do
  match ← buildHead context data httpHeaders with
  | .error err => return .error err
  | .ok head =>
    match httpHeaders.upgradeValue with
    | none => return .ok { head, webSocketUpgrade := false }
    | some position =>
      let upgradeValue ← slice data position.start position.stop
      let webSocketUpgrade ← compareCaseInsensitive upgradeValue (ascii "websocket")
      return .ok { head, webSocketUpgrade }

end

end ReverseProxy
