import ReverseProxy.H1ProxyServer.Pipeline.ResponseFraming

/-!
# The events of a worker

What `run_upstream_request` hands to the client writer, on every path through
it: chunks, then at most one of `Done` and `Abort`.  The chunks are the error
page alone or a beginning of the upstream's response.
-/

namespace ReverseProxy

open Outcome ResponseSender

/-! ## What a transfer has written when it ends -/

section

variable {σ : Type} [H1Writer σ]

/-- The sinks that a refused write leaves as they were. -/
def RefusalsKeep (σ : Type) [H1Writer σ] : Prop :=
  ∀ (sink next : σ) (piece : Bytes) (err : NetworkError),
    writeHttpPayload sink piece = (next, .error err) → next = sink

/-- All that was written is a beginning of what was pending. -/
def WritesPending (before after : Relay σ) : Prop :=
  ∃ pieces, Writes before.sink pieces after.sink ∧ pieces.flatten <+: before.pending

variable {before : Relay σ}

theorem WritesPending.of_sink {after : Relay σ}
    (same : after.sink = before.sink) : WritesPending before after :=
  ⟨[], same ▸ .nil _, List.nil_prefix⟩

theorem Forwards.writesPending {after : Relay σ} {taken : Bytes}
    (forwards : Forwards before after taken) : WritesPending before after := by
  obtain ⟨pieces, writes, whole, _⟩ := forwards.writes
  refine ⟨pieces, writes, ?_⟩
  rw [whole, forwards.pending]
  exact List.prefix_append taken _

theorem WritesPending.after {middle after : Relay σ} {taken : Bytes}
    (consumed : Consumes before middle taken)
    (later : WritesPending middle after) : WritesPending before after := by
  obtain ⟨first, firstWrites, whole, _⟩ := consumed.writes
  obtain ⟨second, secondWrites, inside⟩ := later
  refine ⟨first ++ second, firstWrites.append secondWrites, ?_⟩
  rw [List.flatten_append, whole, consumed.pending]
  exact (List.prefix_append_right_inj taken).mpr inside

variable {relay : Relay σ}

section

variable (keeps : RefusalsKeep σ) {after : Relay σ} {size : Nat}
  {result : Except ProxyServerError Unit}

include keeps

theorem RelayEnds.writesPending
    (ends : RelayEnds relay after size result) : WritesPending relay after := by
  cases ends with
  | complete _ forwards | ended _ forwards => exact forwards.writesPending
  | @refused middle _ piece err forwards _ _ refused =>
    have same := keeps middle.sink after.sink piece err refused
    obtain ⟨pieces, writes, inside⟩ := forwards.writesPending
    exact ⟨pieces, same ▸ writes, inside⟩

theorem relayExactly_writesPending (wf : relay.buffer.Wf)
    (done : relayExactly (size + 1) relay size = .ret (after, result)) :
    WritesPending relay after := by
  obtain ⟨log, last, found, logged, _, ends⟩ :=
    relayExactlyLogged_ends wf (.inl (Nat.lt_succ_self size))
  rw [relayExactly_of_logged logged] at done
  cases done
  exact ends.writesPending keeps

end

omit [H1Writer σ] in
theorem readMore_sink (relay : Relay σ) : (readMore relay).1.sink = relay.sink := by
  unfold readMore
  split
  · rfl
  · split
    · rfl
    · rfl

variable [SliceOfU8Ext]

theorem readChunkHeader_sink {fuel : Nat} {after : Relay σ}
    {result : Except ProxyServerError ChunkHeader} (wf : relay.buffer.Wf)
    (read : readChunkHeader fuel relay = .ret (after, result)) :
    after.sink = relay.sink := by
  induction fuel generalizing relay with
  | zero => cases read
  | succ fuel ih =>
    rw [readChunkHeader, LoopBuffer.getData_of_wf wf] at read
    simp only [bind_ret] at read
    have kept := readMore_sink relay
    split at read
    · cases read
      rfl
    cases more : readMore relay with
    | mk next outcome =>
      rw [more] at kept
      simp only [more] at read
      cases outcome with
      | error err =>
        cases read
        exact kept
      | ok value =>
        rw [← kept]
        exact ih (readMore_ok wf more).1.wf read

theorem transferChunks_writesPending (keeps : RefusalsKeep σ)
    {fuel total : Nat} {after : Relay σ}
    {result : Except ProxyServerError Nat} (wf : relay.buffer.Wf)
    (done : transferChunks fuel relay total = .ret (after, result)) :
    WritesPending relay after := by
  induction fuel generalizing relay total with
  | zero => cases done
  | succ fuel ih =>
    rw [transferChunks, bind_eq_ret_iff] at done
    obtain ⟨⟨middle, looked⟩, read, continued⟩ := done
    cases looked with
    | error err =>
      cases continued
      exact .of_sink (readChunkHeader_sink wf read)
    | ok header =>
      have kept := (readChunkHeader_ok wf read).1
      rw [bind_eq_ret_iff] at continued
      obtain ⟨⟨next, moved⟩, transferred, finished⟩ := continued
      cases moved with
      | error err =>
        cases finished
        rw [transferChunkData, bind_eq_ret_iff] at transferred
        obtain ⟨⟨last, relayed⟩, exact, made⟩ := transferred
        have pending := relayExactly_writesPending keeps kept.wf exact
        cases relayed with
        | error err =>
          cases made
          exact pending.after kept
        | ok value => simp at made
      | ok count =>
        obtain ⟨frame, consumed, _⟩ := chunkRound_ok wf read transferred
        simp only at finished
        split at finished
        · cases finished
          exact consumed.forwards.writesPending
        · exact (ih consumed.wf finished).after consumed

theorem transferBody_writesPending (keeps : RefusalsKeep σ)
    {contentLength : HttpContentLength} {after : Relay σ}
    {result : Except ProxyServerError Nat} (wf : relay.buffer.Wf)
    (done : transferBody relay contentLength = .ret (after, result)) :
    WritesPending relay after := by
  cases contentLength with
  | none =>
    cases done
    exact .of_sink rfl
  | known size =>
    simp only [transferBody] at done
    split at done
    · cases done
      exact .of_sink rfl
    rw [transferKnownSize, bind_eq_ret_iff] at done
    obtain ⟨⟨last, relayed⟩, exact, made⟩ := done
    have pending := relayExactly_writesPending keeps wf exact
    cases relayed with
    | error err =>
      cases made
      exact pending
    | ok value =>
      cases made
      exact pending
  | chunked => exact transferChunks_writesPending keeps wf done

end

/-! ## The sender -/

theorem responseSender_keeps : RefusalsKeep ResponseSender := by
  intro sink next piece err refused
  simp only [writeHttpPayload, send] at refused
  cases accepts : sink.accepts with
  | zero =>
    simp only [accepts, Prod.mk.injEq] at refused
    exact refused.1.symm
  | succ more => simp [accepts] at refused

theorem send_false {tx after : ResponseSender} {event : ResponseEvent}
    (refused : tx.send event = (after, false)) : after = tx := by
  unfold send at refused
  split at refused
  · cases refused
    rfl
  · simp at refused

/-- At most one terminal event. -/
inductive Ending : List ResponseEvent → Prop where
  | none : Ending []
  | done : Ending [.done]
  | abort : Ending [.abort]

theorem send_terminal (tx : ResponseSender) {event : ResponseEvent} (terminal : Ending [event]) :
    ∃ ending, (tx.send event).1.sent = tx.sent ++ ending ∧ Ending ending ∧
      ∀ last ∈ ending, last = event := by
  cases sent : tx.send event with
  | mk after accepted =>
    cases accepted with
    | false => exact ⟨[], by simp [send_false sent], .none, by simp⟩
    | true => exact ⟨[event], send_true sent, terminal, by simp⟩

/-! ## The pump -/

namespace RequestBodyPump

/-- A pump that saw the end of the body has nothing left to take. -/
def Settled (pump : RequestBodyPump) : Prop := pump.completed = true → pump.rx = []

variable {pump stop : RequestBodyPump}

theorem streamChunks_settled {rx : List Bytes} {upstream connection : UpstreamConnection}
    {result : Except NetworkError Unit} (settled : pump.completed = true → rx = [])
    (streamed : streamChunks rx pump upstream = (stop, connection, result)) :
    stop.Settled := by
  induction rx generalizing pump upstream with
  | nil =>
    cases streamed
    exact fun _ => rfl
  | cons chunk rx ih =>
    have running : ¬ pump.completed = true := fun completed =>
      List.cons_ne_nil _ _ (settled completed)
    rw [streamChunks] at streamed
    split at streamed
    · cases streamed
      exact fun completed => (running completed).elim
    · have continuing : (pump.takeChunk chunk rx).completed = true →
          rx = [] := fun completed => (running completed).elim
      exact ih continuing streamed

theorem discardChunks_synced {rx : List Bytes} {discarded : Nat}
    (discards : discardChunks rx pump discarded = (stop, true)) :
    stop.rx = [] := by
  induction rx generalizing pump discarded with
  | nil =>
    cases discards
    rfl
  | cons chunk rx ih =>
    rw [discardChunks] at discards
    split at discards
    · simp at discards
    · exact ih discards

theorem Settled.discardRest (settled : pump.Settled) (discards : pump.discardRest = (stop, true)) :
    stop.rx = [] := by
  unfold RequestBodyPump.discardRest at discards
  split at discards
  · next completed =>
      cases discards
      exact settled completed
  · exact discardChunks_synced discards

end RequestBodyPump

open RequestBodyPump

theorem sendRequest_settled {head : Bytes} {pump stop : RequestBodyPump}
    {upstream connection : UpstreamConnection}
    {result : Except AttemptEnd Unit} (settled : pump.Settled)
    (sent : sendRequest head upstream pump = (stop, connection, result)) :
    stop.Settled := by
  unfold sendRequest at sent
  split at sent
  · cases sent
    exact settled
  split at sent
  · cases sent
    exact settled
  next connected _ _ =>
    cases streamed : pump.stream connected with
    | mk last rest =>
      obtain ⟨left, outcome⟩ := rest
      have lastSettled := streamChunks_settled settled streamed
      rw [streamed] at sent
      cases outcome with
      | error err =>
        cases sent
        exact lastSettled
      | ok value =>
        cases sent
        exact lastSettled

section

variable [SliceOfU8Ext] [StrUtils] [Platform] {env : WorkerEnv}
  {request : WorkerRequest} {tx : ResponseSender}

variable {pump : RequestBodyPump}

theorem runAttempt_settled {upstream : UpstreamConnection} {attempt : Attempt}
    {response : Option UpstreamResponse} (settled : pump.Settled)
    (ran : runAttempt request tx upstream pump = .ret (attempt, response)) :
    attempt.stop.Settled := by
  unfold runAttempt at ran
  split at ran
  · next sent =>
      cases ran
      exact sendRequest_settled settled sent
  next sent =>
    rw [bind_eq_ret_iff] at ran
    obtain ⟨_, _, made⟩ := ran
    cases made
    exact sendRequest_settled settled sent

theorem deliver_settled {retries index : Nat} {stop : RequestBodyPump} {before after : List Attempt}
    {result : Except ErrorTemplate UpstreamResponse} (settled : pump.Settled)
    (delivered : deliver env request tx retries index pump before =
      .ret (after, stop, result)) : stop.Settled := by
  induction retries using Nat.strong_induction_on generalizing index pump before with
  | _ retries ih =>
    rcases deliver_cases delivered with ⟨_, _, _, rfl, _⟩ |
      ⟨upstream, attempt, response, _, ran, ended⟩
    · exact settled
    have attempted := runAttempt_settled settled ran
    rcases ended with ⟨_, rfl, _, _⟩ | ⟨fewer, rfl, _, _, continued⟩
    · exact attempted
    · exact ih fewer (by omega) attempted continued

/-! ## The events of a run -/

omit [SliceOfU8Ext] [StrUtils] [Platform] in
/-- The failure helper sends a page at most, and `Done` only with the whole
body off the reader. -/
theorem failRequest_events (env : WorkerEnv) (request : WorkerRequest)
    (attempts : List Attempt) (tx : ResponseSender)
    (page : ErrorTemplate) (settled : pump.Settled) :
    ∃ (chunks : List Bytes) (ending : List ResponseEvent),
      (failRequest env request attempts pump tx page).tx.sent =
          tx.sent ++ chunks.map .chunk ++ ending ∧
        Ending ending ∧ (chunks = [] ∨ chunks = [env.templates page]) ∧ (.done ∈ ending →
            (failRequest env request attempts pump tx page).pump.rx = []) := by
  unfold failRequest
  cases discarded : pump.discardRest with
  | mk stop synced =>
    dsimp only
    split
    · obtain ⟨ending, sent, ends, only⟩ := send_terminal tx .abort
      refine ⟨[], ending, by simpa using sent, ends, .inl rfl, ?_⟩
      intro done
      cases only _ done
    split
    · next refused =>
        exact ⟨[], [], by simp [send_false refused], .none, .inl rfl,
          by simp⟩
    next after accepted =>
      have paged := send_true accepted
      cases synced with
      | true =>
        obtain ⟨ending, sent, ends, _⟩ := send_terminal after .done
        refine ⟨[env.templates page], ending, ?_, ends, .inr rfl, ?_⟩
        · simpa [paged] using sent
        · exact fun _ => settled.discardRest discarded
      | false =>
        obtain ⟨ending, sent, ends, only⟩ := send_terminal after .abort
        refine ⟨[env.templates page], ending, ?_, ends, .inr rfl, ?_⟩
        · simpa [paged] using sent
        · intro done
          cases only _ done

omit [StrUtils] [Platform] in
theorem relayResponse_events {attempts : List Attempt} {response : UpstreamResponse}
    {run : WorkerRun} (wf : response.reader.buffer.Wf)
    (relayed : relayResponse tx attempts pump response = .ret run) :
    ∃ (chunks : List Bytes) (ending : List ResponseEvent),
      run.tx.sent = tx.sent ++ chunks.map .chunk ++ ending ∧
      Ending ending ∧ chunks.flatten <+: response.compiled.head ++ response.reader.pending := by
  obtain ⟨last, count, ended, rfl⟩ := relayResponse_eq_ret relayed
  -- What was sent before the last event, once the head was taken.
  have sentBody : ∀ {afterHead afterBody reader result},
      tx.send (.chunk response.compiled.head) = (afterHead, true) →
      response.reader.transferBody afterHead response.contentLength =
          .ret (reader, afterBody, result) →
        ∃ pieces, afterBody.sent = tx.sent ++ (response.compiled.head :: pieces).map .chunk ∧
          (response.compiled.head :: pieces).flatten <+:
            response.compiled.head ++ response.reader.pending := by
    intro afterHead afterBody reader result headSent moved
    obtain ⟨pieces, writes, inside⟩ := transferBody_writesPending responseSender_keeps
        (show (response.reader.into afterHead).buffer.Wf from wf)
        (H1Reader.transferBody_eq_ret moved)
    have sent : afterBody.sent = afterHead.sent ++ pieces.map .chunk := writes_sender writes
    refine ⟨pieces, by simp [sent, send_true headSent], ?_⟩
    rw [List.flatten_cons]
    exact (List.prefix_append_right_inj _).mpr inside
  cases ended with
  | refused headSent =>
    exact ⟨[], [], by simp [send_false headSent], .none, List.nil_prefix⟩
  | @upgraded after headSent =>
    obtain ⟨ending, sent, ends, _⟩ := send_terminal after .abort
    refine ⟨[response.compiled.head], ending, ?_, ends, by simp⟩
    simpa [send_true headSent] using sent
  | @failed _ afterBody _ _ headSent moved =>
    obtain ⟨pieces, bodyEvents, part⟩ := sentBody headSent moved
    obtain ⟨ending, sent, ends, _⟩ := send_terminal afterBody .abort
    exact ⟨_, ending, bodyEvents ▸ sent, ends, part⟩
  | @ended _ afterBody _ _ _ _ headSent moved doneSent =>
    obtain ⟨pieces, bodyEvents, part⟩ := sentBody headSent moved
    obtain ⟨ending, sent, ends, _⟩ := send_terminal afterBody .done
    rw [doneSent] at sent
    exact ⟨_, ending, bodyEvents ▸ sent, ends, part⟩

/-- The events of every run of a worker: chunks and then at most one of `Done`
and `Abort`; the chunks are all of the response of the upstream, or there is no
response and they are one error page at most; and `Done` stands there only if
every chunk of the request body was taken off the reader. -/
theorem worker_event_protocol {run : WorkerRun}
    (done : runUpstreamRequest env request tx = .ret run) :
    ∃ (chunks : List Bytes) (ending : List ResponseEvent),
      run.tx.sent = tx.sent ++ chunks.map .chunk ++ ending ∧
      Ending ending ∧
      ((∃ response, run.response = some response ∧
          chunks.flatten <+: response.compiled.head ++ response.reader.pending) ∨
        run.response = none ∧ (chunks = [] ∨ ∃ page, chunks = [env.templates page])) ∧
      (.done ∈ ending → run.pump.rx = [] ∧ run.pump.total = request.chunks.flatten.length) := by
  unfold runUpstreamRequest at done
  rw [bind_eq_ret_iff] at done
  obtain ⟨⟨attempts, pump, result⟩, delivered, continued⟩ := done
  obtain ⟨spec, _, whole⟩ := deliver_spec .initial rfl delivered
  obtain ⟨taken, tracks⟩ := spec.tracks
  cases result with
  | error page =>
    cases continued
    have settled := deliver_settled (by simp [Settled]) delivered
    obtain ⟨chunks, ending, sent, ends, paged, drained⟩ :=
      failRequest_events env request attempts tx page settled
    have keptPump : (failRequest env request attempts pump tx page).pump =
        pump.discardRest.1 := failRequest_keeps.2.1
    refine ⟨chunks, ending, sent, ends, .inr ⟨failRequest_keeps.2.2.1, ?_⟩, ?_⟩
    · rcases paged with none | one
      · exact .inl none
      · exact .inr ⟨page, one⟩
    · intro doneSent
      have empty := drained doneSent
      rw [keptPump] at empty ⊢
      cases discarded : pump.discardRest with
      | mk stop synced =>
        rw [discarded] at empty
        obtain ⟨later, split, total⟩ := tracks.discardRest discarded
        rw [empty, List.append_nil] at split
        rw [split]
        exact ⟨empty, total⟩
  | ok response =>
    obtain ⟨upstream, _, ended, read⟩ := deliver_response List.length_nil delivered
    obtain ⟨head, buffered, headers, wf, _⟩ := readResponseHead_some read
    obtain ⟨chunks, ending, sent, ends, part⟩ := relayResponse_events wf continued
    obtain ⟨_, keptPump, used, _⟩ := relayResponse_keeps continued
    refine ⟨chunks, ending, sent, ends, .inl ⟨response, used, part⟩, ?_⟩
    intro _
    have empty := (whole response rfl).1
    have split := tracks.split
    rw [empty, List.append_nil] at split
    rw [keptPump, split]
    exact ⟨empty, tracks.total⟩

end

section

attribute [local instance] linearSearch asciiCase barePlatform

/-- An upstream that cannot be reached. -/
private def unreachable : WorkerEnv := { acquire := fun _ => .error .disconnected }

/-- The page, and `Done` behind the drained upload. -/
theorem worker_event_protocol_unreachable :
    ∃ run, runUpstreamRequest unreachable upload { accepts := 9 } =
        .ret run ∧ run.tx.sent = [.chunk [], .done] ∧
      ∃ (chunks : List Bytes) (ending : List ResponseEvent),
        run.tx.sent = [] ++ chunks.map .chunk ++ ending ∧ Ending ending ∧
        ((∃ response, run.response = some response ∧ chunks.flatten <+:
              response.compiled.head ++ response.reader.pending) ∨
          run.response = none ∧ (chunks = [] ∨ ∃ page, chunks = [unreachable.templates page])) ∧
        (.done ∈ ending → run.pump.rx = [] ∧ run.pump.total = upload.chunks.flatten.length) := by
  have evaluated : (runUpstreamRequest unreachable upload { accepts := 9 } >>=
      fun run => .ret run.tx.sent) = .ret [.chunk [], .done] := by
    decide +kernel
  rw [bind_eq_ret_iff] at evaluated
  obtain ⟨run, done, sent⟩ := evaluated
  exact ⟨run, done, by simpa using sent, worker_event_protocol done⟩

end

end ReverseProxy
