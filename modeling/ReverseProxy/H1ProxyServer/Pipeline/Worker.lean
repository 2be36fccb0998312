import ReverseProxy.H1ProxyServer.Pipeline.ClientWriter

/-!
# The upstream worker

`run_upstream_request` acquires a connection, writes the head, streams the body,
reads the response and turns it into events for the client writer.  A connection
comes with the outcome of every write and what its reads will see.  Giving it
back to the pool is left out.
-/

namespace ReverseProxy

/-! ## Upstream connections -/

inductive WriteOutcome where
  | succeeds
  /-- The write fails after `count` octets have left. -/
  | fails (count : Nat) (err : NetworkError)
deriving DecidableEq, Repr

/-- A connection as the pool hands it out.  Writes beyond the listed outcomes
succeed. -/
structure UpstreamConnection where
  reused : Bool
  disconnected : Bool := false
  writes : List WriteOutcome := []
  response : List ReadEvent := []
  /-- The octets of this request that reached the connection. -/
  wire : Bytes := []
deriving DecidableEq, Repr

namespace UpstreamConnection

/-- `send_with_timeout`. -/
def write (connection : UpstreamConnection) (buffer : Bytes) :
    UpstreamConnection × Except NetworkError Unit :=
  match connection.writes with
  | [] => ({ connection with wire := connection.wire ++ buffer }, .ok ())
  | .succeeds :: writes =>
    ({ connection with writes, wire := connection.wire ++ buffer }, .ok ())
  | .fails count err :: writes =>
    ({ connection with
       writes
       wire := connection.wire ++ buffer.take count }, .error err)

/-- `send_head_bytes`: nothing is written to a connection that is known to be
gone. -/
def sendHeadBytes (connection : UpstreamConnection) (head : Bytes) :
    UpstreamConnection × Except NetworkError Unit :=
  if connection.disconnected then (connection, .error .disconnected)
  else connection.write head

end UpstreamConnection

/-! ## The request body -/

def maxDeliveryAttempts : Nat := 2

def replayWindow : Nat := 64 * 1024

structure RequestBodyPump where
  /-- The chunks the reader will still deliver. -/
  rx : List Bytes
  replay : Option Bytes := some []
  completed : Bool := false
  total : Nat := 0
deriving DecidableEq, Repr

namespace RequestBodyPump

variable (pump : RequestBodyPump)

def isReplayable : Bool := pump.replay.isSome

def resend (upstream : UpstreamConnection) :
    UpstreamConnection × Except NetworkError Unit :=
  match pump.replay with
  | none => (upstream, .error .disconnected)
  | some replay =>
    if replay = [] then (upstream, .ok ()) else upstream.write replay

/-- A chunk has been received; it is remembered before it is written. -/
def takeChunk (chunk : Bytes) (rx : List Bytes) :
    RequestBodyPump :=
  { pump with
    rx
    total := pump.total + chunk.length
    replay := pump.replay.bind fun replay =>
      if replay.length + chunk.length > replayWindow then none
      else some (replay ++ chunk) }

def complete : RequestBodyPump := { pump with rx := [], completed := true }

def streamChunks : List Bytes → RequestBodyPump → UpstreamConnection →
    RequestBodyPump × UpstreamConnection × Except NetworkError Unit
  | [], pump, upstream => (pump.complete, upstream, .ok ())
  | chunk :: rx, pump, upstream =>
    let pump := pump.takeChunk chunk rx
    match upstream.write chunk with
    | (upstream, .error err) => (pump, upstream, .error err)
    | (upstream, .ok _) => streamChunks rx pump upstream

def stream (upstream : UpstreamConnection) :
    RequestBodyPump × UpstreamConnection × Except NetworkError Unit :=
  streamChunks pump.rx pump upstream

def discardChunks : List Bytes → RequestBodyPump → Nat → RequestBodyPump × Bool
  | [], pump, _ => (pump.complete, true)
  | chunk :: rx, pump, discarded =>
    let pump := { pump with rx, total := pump.total + chunk.length }
    let discarded := discarded + chunk.length
    if discarded > replayWindow then (pump, false)
    else discardChunks rx pump discarded

def discardRest : RequestBodyPump × Bool :=
  if pump.completed then (pump, true) else discardChunks pump.rx pump 0

end RequestBodyPump

/-! ## Events for the client writer -/

/-- The sending end of the slot; the writer takes `accepts` more events before
it goes away. -/
structure ResponseSender where
  accepts : Nat
  sent : List ResponseEvent := []
deriving DecidableEq, Repr

def ResponseSender.send (tx : ResponseSender) (event : ResponseEvent) : ResponseSender × Bool :=
  match tx.accepts with
  | 0 => (tx, false)
  | accepts + 1 => ({ accepts, sent := tx.sent ++ [event] }, true)

/-- `ChannelSink`. -/
instance : H1Writer ResponseSender where
  writeHttpPayload tx buffer :=
    match tx.send (.chunk buffer) with
    | (tx, true) => (tx, .ok ())
    | (tx, false) => (tx, .error .disconnected)

/-! ## Failures -/

/-- Where an attempt ended. -/
inductive AttemptEnd where
  | headFailed (err : NetworkError)
  | bodyFailed (err : NetworkError)
  | responseFailed (err : ProxyServerError)
  | compileFailed (err : ProxyServerError)
  | responded
deriving DecidableEq, Repr

def isStaleConnection : ProxyServerError → Bool
  | .networkError err => !err.isTimeout
  | _ => false

def classifyUpstreamFailure : ProxyServerError → ErrorTemplate
  | .networkError err =>
    if err.isTimeout then .errorTimeout else .remoteResourceIsNotAvailable
  | _ => .upstreamIsNotHttp

namespace AttemptEnd

/-- The decision at the failure site. -/
def replays (ended : AttemptEnd) (retriesLeft reused : Bool) (pump : RequestBodyPump) : Bool :=
  match ended with
  | headFailed _ => retriesLeft && pump.isReplayable
  | bodyFailed _ => retriesLeft && pump.isReplayable
  | responseFailed err =>
    reused && retriesLeft && pump.isReplayable && isStaleConnection err
  | compileFailed _ => false
  | responded => false

/-- The error page of the failure site. -/
def page : AttemptEnd → ErrorTemplate
  | headFailed _ => .remoteResourceIsNotAvailable
  | bodyFailed _ => .errorGettingContentFromRemoteResource
  | responseFailed err => classifyUpstreamFailure err
  | compileFailed err => classifyUpstreamFailure err
  | responded => .upstreamIsNotHttp

end AttemptEnd

/-- What is on record of one attempt: the events the client had been handed
when it started, the pump before and after it, and the octets its connection
received. -/
structure Attempt where
  reused : Bool
  handed : List ResponseEvent
  start : RequestBodyPump
  stop : RequestBodyPump
  wire : Bytes
  ended : AttemptEnd

/-! ## One request -/

structure WorkerEnv where
  /-- The result of the n-th call of `pool.acquire`. -/
  acquire : Nat → Except NetworkError UpstreamConnection
  templates : ErrorTemplate → Bytes := fun _ => []

/-- A response whose head has been read and compiled. -/
structure UpstreamResponse where
  reader : H1Reader
  contentLength : HttpContentLength
  compiled : CompiledHeaders

/-- The head and the body chunks of a request. -/
structure WorkerRequest where
  upstream : UpstreamRequest
  chunks : List Bytes

/-- The head of the response is rewritten by the rules of the endpoint. -/
def WorkerRequest.responseContext (request : WorkerRequest) : CompileContext :=
  { kind := .response request.upstream.endPointInfo
    connectionInfo := request.upstream.connectionInfo
    identity := none
    mcpPath := none
    dynamicProxyHostOverride := none }

structure WorkerRun where
  attempts : List Attempt
  pump : RequestBodyPump
  tx : ResponseSender
  /-- The response of the last attempt, if it was used. -/
  response : Option UpstreamResponse := none
  recordedC2s : Option Nat := none
  recordedS2c : Option Nat := none

/-- `fail_request`. -/
def failRequest (env : WorkerEnv) (request : WorkerRequest)
    (attempts : List Attempt) (pump : RequestBodyPump) (tx : ResponseSender)
    (page : ErrorTemplate) : WorkerRun :=
  let (pump, staysSynced) := pump.discardRest
  if request.upstream.proxyPassTo.isMcp then
    { attempts, pump, tx := (tx.send .abort).1 }
  else
    match tx.send (.chunk (env.templates page)) with
    | (tx, false) => { attempts, pump, tx }
    | (tx, true) =>
      { attempts
        pump
        tx := (tx.send (if staysSynced then .done else .abort)).1 }

/-- Write the head, re-send what was taken before, stream the rest. -/
def sendRequest (head : Bytes) (upstream : UpstreamConnection) (pump : RequestBodyPump) :
    RequestBodyPump × UpstreamConnection × Except AttemptEnd Unit :=
  match upstream.sendHeadBytes head with
  | (connection, .error err) => (pump, connection, .error (.headFailed err))
  | (connection, .ok _) =>
    match pump.resend connection with
    | (connection, .error err) => (pump, connection, .error (.bodyFailed err))
    | (connection, .ok _) =>
      match pump.stream connection with
      | (stop, connection, .error err) =>
        (stop, connection, .error (.bodyFailed err))
      | (stop, connection, .ok _) => (stop, connection, .ok ())

section

variable [SliceOfU8Ext] [StrUtils] [Platform]

/-- Read and compile the head of the response. -/
def readResponseHead (request : WorkerRequest) (events : List ReadEvent) :
    Outcome (AttemptEnd × Option UpstreamResponse) := do
  let fresh : H1Reader := { events, buffer := .new fun _ => 0 }
  match ← fresh.readHeaders with
  | (_, .error err) => return (.responseFailed err, none)
  | (reader, .ok headers) =>
    let data ← reader.buffer.getData
    match ← compileHeaders request.responseContext data headers with
    | .error err => return (.compileFailed err, none)
    | .ok compiled =>
      return (.responded, some
        { reader := reader.commitRead headers.stop
          contentLength := headers.contentLength
          compiled })

/-- One pass of the delivery loop behind `acquire`. -/
def runAttempt (request : WorkerRequest) (tx : ResponseSender)
    (upstream : UpstreamConnection) (pump : RequestBodyPump) :
    Outcome (Attempt × Option UpstreamResponse) :=
  match sendRequest request.upstream.head upstream pump with
  | (stop, connection, .error ended) =>
    .ret (
      { reused := upstream.reused
        handed := tx.sent
        start := pump
        stop
        wire := connection.wire
        ended }, none)
  | (stop, connection, .ok _) => do
    let (ended, response) ← readResponseHead request connection.response
    return (
      { reused := upstream.reused
        handed := tx.sent
        start := pump
        stop
        wire := connection.wire
        ended }, response)

/-- The delivery loop: the attempts made, the pump, and the response or the
page to answer with. -/
def deliver (env : WorkerEnv) (request : WorkerRequest) (tx : ResponseSender) :
    Nat → Nat → RequestBodyPump → List Attempt →
      Outcome (List Attempt × RequestBodyPump × Except ErrorTemplate UpstreamResponse)
  | retries, index, pump, attempts =>
    match env.acquire index with
    | .error _ =>
      .ret (attempts, pump, .error .remoteResourceIsNotAvailable)
    | .ok upstream => do
      let (attempt, response) ← runAttempt request tx { upstream with wire := [] } pump
      let attempts := attempts ++ [attempt]
      match response with
      | some response => return (attempts, attempt.stop, .ok response)
      | none =>
        match retries with
        | 0 => return (attempts, attempt.stop, .error attempt.ended.page)
        | retries + 1 =>
          if attempt.ended.replays true attempt.reused attempt.stop then
            deliver env request tx retries (index + 1) attempt.stop attempts
          else
            return (attempts, attempt.stop, .error attempt.ended.page)

/-- From the compiled response head on: nothing can be replaced any more. -/
def relayResponse (tx : ResponseSender) (attempts : List Attempt)
    (pump : RequestBodyPump) (response : UpstreamResponse) :
    Outcome WorkerRun := do
  let run : WorkerRun :=
    { attempts
      pump
      tx
      response := some response
      recordedC2s := some pump.total }
  match tx.send (.chunk response.compiled.head) with
  | (tx, false) => return { run with tx }
  | (tx, true) =>
    if response.compiled.webSocketUpgrade then
      return { run with tx := (tx.send .abort).1 }
    else
      match ← response.reader.transferBody tx response.contentLength with
      | (_, tx, .error _) => return { run with tx := (tx.send .abort).1 }
      | (_, tx, .ok bytesToClient) =>
        match tx.send .done with
        | (tx, false) => return { run with tx }
        | (tx, true) =>
          return { run with tx, recordedS2c := some bytesToClient }

def runUpstreamRequest (env : WorkerEnv) (request : WorkerRequest)
    (tx : ResponseSender) : Outcome WorkerRun := do
  match ← deliver env request tx (maxDeliveryAttempts - 1) 0
      { rx := request.chunks } [] with
  | (attempts, pump, .error page) =>
    return failRequest env request attempts pump tx page
  | (attempts, pump, .ok response) => relayResponse tx attempts pump response

end

end ReverseProxy
