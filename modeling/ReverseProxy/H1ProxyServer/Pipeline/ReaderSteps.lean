import ReverseProxy.H1ProxyServer.ChunkedRelay
import ReverseProxy.H1ProxyServer.Pipeline.Reader

/-!
# What a reader step leaves on the connection

Every step that goes on reading has read one head, dropped it from the buffer
and run one body transfer.  The exits differ only in whether they look at the
result of that transfer.
-/

namespace ReverseProxy

open Outcome LoopBuffer

namespace H1Reader

/-- The bytes of the connection that no request has consumed. -/
def pending (reader : H1Reader) : Bytes := reader.buffer.contents ++ unread reader.events

/-- The part of them that arrives before a read fails. -/
def available (reader : H1Reader) : Bytes := reader.buffer.contents ++ readable reader.events

/-- `after` is reached from `before` by taking `taken` off the connection. -/
structure Takes (before after : H1Reader) (taken : Bytes) : Prop where
  wf : after.buffer.Wf
  pending : before.pending = taken ++ after.pending
  available : before.available = taken ++ after.available

theorem Takes.trans {before middle after : H1Reader} {left right : Bytes}
    (first : Takes before middle left) (second : Takes middle after right) :
    Takes before after (left ++ right) :=
  { wf := second.wf
    pending := by rw [first.pending, second.pending, List.append_assoc]
    available := by
      rw [first.available, second.available, List.append_assoc] }

theorem commitRead_takes {reader : H1Reader} {head rest : Bytes}
    (wf : reader.buffer.Wf) (contents : reader.buffer.contents = head ++ rest) :
    Takes reader (reader.commitRead head.length) head := by
  have left : (reader.commitRead head.length).buffer.contents = rest := by
    rw [commitRead, commitRead_contents, contents, List.drop_left]
  refine
    { wf := commitRead_wf wf (by simp [contents])
      pending := ?_
      available := ?_ }
  · rw [pending, pending, left, contents, commitRead, List.append_assoc]
  · rw [available, available, left, contents, commitRead, List.append_assoc]

/-! ## Transfers -/

section

variable {σ : Type} [H1Writer σ] [SliceOfU8Ext]

theorem transferBody_eq_ret {reader after : H1Reader} {sink left : σ}
    {contentLength : HttpContentLength} {result : Except ProxyServerError Nat}
    (done : reader.transferBody sink contentLength = .ret (after, left, result)) :
    ReverseProxy.transferBody (reader.into sink) contentLength =
      .ret (after.into left, result) := by
  rw [transferBody, bind_eq_ret_iff] at done
  obtain ⟨⟨relay, found⟩, transferred, made⟩ := done
  cases made
  exact transferred

theorem transferBody_takes {reader after : H1Reader} {sink left : σ}
    {contentLength : HttpContentLength} {count : Nat}
    (wf : reader.buffer.Wf)
    (done : reader.transferBody sink contentLength = .ret (after, left, .ok count)) :
    ∃ taken, Takes reader after taken ∧
      TakesBody contentLength reader.pending taken after.pending := by
  obtain ⟨taken, consumed, body⟩ := transferBody_ok
    (show (reader.into sink).buffer.Wf from wf) (transferBody_eq_ret done)
  exact ⟨taken,
    { wf := consumed.wf
      pending := consumed.pending
      available := consumed.available }, body⟩

end

theorem nullSink_accepts : AcceptsAll NullSink := fun sink _ => ⟨sink, rfl⟩

/-- A body that arrives is drained, so the result that is not looked at is
`Ok`. -/
theorem drain_takes [SliceOfU8Ext] {reader after : H1Reader}
    {left : NullSink} {contentLength : HttpContentLength}
    {result : Except ProxyServerError Nat} (wf : reader.buffer.Wf)
    (arrives : BodyArrives contentLength reader.available)
    (done : reader.transferBody NullSink.mk contentLength = .ret (after, left, result)) :
    ∃ taken, Takes reader after taken ∧
      TakesBody contentLength reader.pending taken after.pending := by
  obtain ⟨relay, count, progressed⟩ := transferBody_progress nullSink_accepts
    (show (reader.into NullSink.mk).buffer.Wf from wf) arrives
  have transferred := transferBody_eq_ret done
  rw [progressed] at transferred
  cases transferred
  exact transferBody_takes wf done

/-! ## Reading a head -/

section

variable [SliceOfU8Ext] [StrUtils]

theorem readHeadersLoop_ok {fuel : Nat} {reader after : H1Reader}
    {headers : Http1Headers} (wf : reader.buffer.Wf)
    (read : reader.readHeadersLoop fuel = .ret (after, .ok headers)) :
    Takes reader after [] ∧ Http1Headers.parse after.buffer.contents = .ret (some headers) := by
  induction fuel generalizing reader with
  | zero => simp [readHeadersLoop] at read
  | succ fuel ih =>
    rw [readHeadersLoop, getData_of_wf wf] at read
    simp only [bind_ret] at read
    rw [bind_eq_ret_iff] at read
    obtain ⟨found, parsed, continued⟩ := read
    cases found with
    | some found =>
      have same : reader = after ∧ found = headers := by
        simpa using continued
      obtain ⟨rfl, rfl⟩ := same
      refine ⟨{ wf, pending := rfl, available := rfl }, ?_⟩
      rw [parseBuffered] at parsed
      split at parsed
      · exact parsed
      · simp at parsed
    | none =>
      simp only at continued
      cases more : readMore (reader.into NullSink.mk) with
      | mk relay result =>
        cases result with
        | error err => simp [more] at continued
        | ok value =>
          simp only [more] at continued
          obtain ⟨received, _⟩ := readMore_ok
            (show (reader.into NullSink.mk).buffer.Wf from wf) more
          obtain ⟨taken, parsed⟩ := ih received.wf continued
          have first : Takes reader { events := relay.events, buffer := relay.buffer } [] :=
            { wf := received.wf
              pending := received.pending
              available := received.available }
          exact ⟨first.trans taken, parsed⟩

theorem readHeaders_ok {reader after : H1Reader} {headers : Http1Headers} (wf : reader.buffer.Wf)
    (read : reader.readHeaders = .ret (after, .ok headers)) :
    Takes reader after [] ∧ Http1Headers.parse after.buffer.contents = .ret (some headers) :=
  readHeadersLoop_ok wf read

end

end H1Reader

/-! ## Exits that go on reading -/

section

variable [SliceOfU8Ext]

/-- How the body of a request leaves the connection: a transfer that
succeeded, or a drain whose result nobody looked at. -/
inductive BodyLeft (before : H1Reader) (contentLength : HttpContentLength)
    (after : H1Reader) : Prop where
  | transferred {σ : Type} [H1Writer σ] {sink left : σ} {count : Nat}
      (done : before.transferBody sink contentLength =
        .ret (after, left, .ok count)) : BodyLeft before contentLength after
  | drained {left : NullSink} {result : Except ProxyServerError Nat}
      (done : before.transferBody NullSink.mk contentLength =
        .ret (after, left, result)) : BodyLeft before contentLength after

omit [SliceOfU8Ext] in
theorem emitSingleResponse_state (env : StepEnv) (state : ReaderState)
    (keepAlive : Bool) (bytes : Bytes) :
    (emitSingleResponse env state keepAlive bytes).state = state := by
  unfold emitSingleResponse
  split
  · rfl
  · rfl

variable {reader after : H1Reader} {headers : Http1Headers} {bytes : Bytes}

theorem answer_answered {response : OAuthHttpResponse} (answered : answer reader headers response =
      .ret (after, .answered bytes)) :
    BodyLeft (reader.commitRead headers.stop) headers.contentLength after := by
  simp only [answer, dropBody, bind_eq_ret_iff] at answered
  obtain ⟨⟨left, read⟩, ⟨⟨moved, sink, result⟩, transferred, made⟩, finished⟩ := answered
  cases made
  cases result with
  | error err => simp [Except.isOk, Except.toBool] at finished
  | ok count =>
    have same : moved = after := by
      simp only [Except.isOk, Except.toBool, if_true] at finished
      cases finished
      rfl
    exact same ▸ .transferred transferred

variable {info : HttpEndpointInfo}

theorem answerRoute_answered {context : OAuthContext} {request : RequestFacts} {route : OAuthRoute}
    (answered : answerRoute reader info headers context request route =
      .ret (after, .answered bytes)) :
    BodyLeft (reader.commitRead headers.stop) headers.contentLength after := by
  simp only [answerRoute, collectBody, bind_eq_ret_iff] at answered
  obtain ⟨⟨left, read⟩, ⟨⟨moved, sink, result⟩, transferred, made⟩, finished⟩ := answered
  cases made
  cases result with
  | error err => simp [Except.isOk, Except.toBool] at finished
  | ok count =>
    have same : moved = after := by
      simp only [Except.isOk, Except.toBool, if_true] at finished
      cases body : sink.intoBody with
      | none =>
        rw [body] at finished
        cases finished
        rfl
      | some collected =>
        rw [body] at finished
        cases finished
        rfl
    exact same ▸ .transferred transferred

theorem runOauthGate_answered {app : AppCtx} (gated : runOauthGate app reader info headers =
      .ret (after, .answered bytes)) :
    BodyLeft (reader.commitRead headers.stop) headers.contentLength after := by
  unfold runOauthGate at gated
  split at gated
  · simp at gated
  split at gated
  · exact answer_answered gated
  simp only [bind_eq_ret_iff] at gated
  obtain ⟨buffer, _, request, _, route, _, continued⟩ := gated
  cases route with
  | none =>
    simp only [gateProxiedRequest] at continued
    split at continued
    · simp at continued
    · exact answer_answered continued
  | some route => exact answerRoute_answered continued

theorem answer_not_proceed {response : OAuthHttpResponse} :
    answer reader headers response ≠ .ret (after, .proceed) := by
  intro answered
  simp only [answer, bind_eq_ret_iff] at answered
  obtain ⟨⟨left, read⟩, _, finished⟩ := answered
  cases read with
  | false => simp at finished
  | true => simp at finished

theorem answerRoute_not_proceed {context : OAuthContext}
    {request : RequestFacts} {route : OAuthRoute} :
    answerRoute reader info headers context request route ≠ .ret (after, .proceed) := by
  intro answered
  simp only [answerRoute, bind_eq_ret_iff] at answered
  obtain ⟨⟨left, body⟩, _, finished⟩ := answered
  cases body with
  | none => simp at finished
  | some body =>
    cases body with
    | none => simp at finished
    | some body => simp at finished

theorem runOauthGate_proceed {app : AppCtx}
    (gated : runOauthGate app reader info headers = .ret (after, .proceed)) :
    after = reader := by
  unfold runOauthGate at gated
  split at gated
  · cases gated
    rfl
  split at gated
  · exact (answer_not_proceed gated).elim
  simp only [bind_eq_ret_iff] at gated
  obtain ⟨buffer, _, request, _, route, _, continued⟩ := gated
  cases route with
  | none =>
    simp only [gateProxiedRequest] at continued
    split at continued
    · cases continued
      rfl
    · exact (answer_not_proceed continued).elim
  | some route => exact (answerRoute_not_proceed continued).elim

/-! ## The step as a whole -/

variable [StrUtils] [RemoteEndpointParser]

/-- The request has passed the endpoint and its gate and has a route. -/
def Routed (env : StepEnv) (state : ReaderState) (info : HttpEndpointInfo)
    (headers : Http1Headers) (route : Route) : Prop :=
  checkEndpoint env.app info state.connectionInfo = .ret none ∧
    runOauthGate env.app state.reader info headers = .ret (state.reader, .proceed) ∧
    ∃ buf, state.reader.buffer.getData = .ret buf ∧
      selectRoute env.app info state.connectionInfo headers buf = .ret (.ok route)

/-- How a request with a head ends. -/
inductive HandledAs (env : StepEnv) (state : ReaderState) (info : HttpEndpointInfo)
    (headers : Http1Headers) : StepResult → Prop where
  | closed (reader : H1Reader) :
      HandledAs env state info headers
        { state := { state with reader }, step := .close, queued := .nothing }
  | refused (err : ProxyServerError) : HandledAs env state info headers (respondError env state err)
  | answered {reader : H1Reader} (bytes : Bytes)
      (left : BodyLeft (state.reader.commitRead headers.stop) headers.contentLength reader) :
      HandledAs env state info headers
        (emitSingleResponse env { state with reader } info.keepAlive bytes)
  | upgraded {route : Route} {request : UpstreamRequest}
      (routed : Routed env state info headers route)
      (carries : request.location = route.location ∧ request.identity = route.identity ∧
        request.endPointInfo = info) :
      HandledAs env state info headers
        { state := { state with reader := state.reader.commitRead headers.stop }
          step := .upgrade request
          queued := .nothing }
  | dispatched {route : Route} {request : UpstreamRequest} {reader : H1Reader}
      {sink : BodyChannelSink} {transfer : Except ProxyServerError Nat}
      (routed : Routed env state info headers route)
      (carries : request.location = route.location ∧ request.identity = route.identity ∧
        request.endPointInfo = info)
      (transferred : (state.reader.commitRead headers.stop).transferBody
        (BodyChannelSink.mk env.workerAccepts []) headers.contentLength =
          .ret (reader, sink, transfer)) :
      HandledAs env state info headers
        { state := { state with reader }
          step := if transfer.isOk && info.keepAlive then .continueReading else .close
          queued := .upstream request }

variable {env : StepEnv} {state : ReaderState} {info : HttpEndpointInfo}
  {headers : Http1Headers} {result : StepResult}

theorem serveRequest_handledAs {route : Route} {compiled : CompiledHeaders}
    (routed : Routed env state info headers route)
    (served : serveRequest env { state with reader := state.reader.commitRead headers.stop } info
      route headers.contentLength compiled = .ret result) :
    HandledAs env state info headers result := by
  have locally : ∀ {bytes : Bytes}, answerLocally env
      { state with reader := state.reader.commitRead headers.stop } headers.contentLength
        info.keepAlive bytes = .ret result → HandledAs env state info headers result := by
    intro bytes answered
    simp only [answerLocally, bind_eq_ret_iff] at answered
    obtain ⟨⟨reader, sink, drain⟩, transferred, made⟩ := answered
    cases made
    exact .answered bytes (.drained transferred)
  unfold serveRequest at served
  split at served
  · exact locally served
  · simp only [bind_eq_ret_iff] at served
    obtain ⟨firstLine, _, verbAndPath, _, answered⟩ := served
    exact locally answered
  simp only at served
  split at served
  · cases served
    exact .upgraded routed ⟨rfl, rfl, rfl⟩
  unfold dispatchUpstream at served
  split at served
  · cases served
    exact .closed _
  rw [bind_eq_ret_iff] at served
  obtain ⟨⟨reader, sink, transfer⟩, transferred, made⟩ := served
  cases made
  exact .dispatched routed ⟨rfl, rfl, rfl⟩ transferred

theorem HandledAs.left (handled : HandledAs env state info headers result)
    (continues : result.step = .continueReading) :
    BodyLeft (state.reader.commitRead headers.stop) headers.contentLength
      result.state.reader := by
  cases handled with
  | answered bytes left =>
    rw [emitSingleResponse_state]
    exact left
  | dispatched routed carries transferred =>
    rename_i transfer
    cases transfer with
    | error err => simp [Except.isOk, Except.toBool] at continues
    | ok count => exact .transferred transferred
  | _ => simp [respondError] at continues

variable [Platform]

theorem handleRequest_handledAs (handled : handleRequest env state info headers = .ret result) :
    HandledAs env state info headers result := by
  simp only [handleRequest, bind_eq_ret_iff] at handled
  obtain ⟨checked, passes, continued⟩ := handled
  cases checked with
  | some err =>
    cases continued
    exact .refused err
  | none =>
    simp only [bind_eq_ret_iff] at continued
    obtain ⟨⟨reader, outcome⟩, gated, routed⟩ := continued
    cases outcome with
    | close =>
      cases routed
      exact .closed reader
    | answered bytes =>
      cases routed
      exact .answered bytes (runOauthGate_answered gated)
    | proceed =>
      cases runOauthGate_proceed gated
      simp only [routeRequest, bind_eq_ret_iff] at routed
      obtain ⟨buf, read, selected, selects, continued⟩ := routed
      cases selected with
      | error refusal =>
        cases refusal with
        | close =>
          cases continued
          exact .closed _
        | error err =>
          cases continued
          exact .refused err
      | ok route =>
        simp only [bind_eq_ret_iff] at continued
        obtain ⟨compiled, _, served⟩ := continued
        cases compiled with
        | error err =>
          cases served
          exact .refused err
        | ok compiled => exact serveRequest_handledAs ⟨passes, gated, buf, read, selects⟩ served

theorem readAndDispatch_left (stepped : readAndDispatch env state = .ret result)
    (continues : result.step = .continueReading) :
    ∃ reader headers, state.reader.readHeaders = .ret (reader, .ok headers) ∧
      BodyLeft (reader.commitRead headers.stop) headers.contentLength
        result.state.reader := by
  simp only [readAndDispatch, bind_eq_ret_iff] at stepped
  obtain ⟨⟨reader, read⟩, headersRead, continued⟩ := stepped
  cases read with
  | error err =>
    cases continued
    simp at continues
  | ok headers =>
    simp only [bind_eq_ret_iff] at continued
    obtain ⟨buf, _, endpointInfo, _, handled⟩ := continued
    cases endpointInfo with
    | none =>
      cases handled
      simp [respondError] at continues
    | some info =>
      exact ⟨reader, headers, headersRead, (handleRequest_handledAs handled).left continues⟩

end

end ReverseProxy
