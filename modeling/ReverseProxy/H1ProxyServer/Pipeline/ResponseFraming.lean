import ReverseProxy.H1ProxyServer.Pipeline.ReaderSteps
import ReverseProxy.H1ProxyServer.Pipeline.ReplayRule
import ReverseProxy.H1ProxyServer.Pipeline.ResponseOrder
import ReverseProxy.H1ProxyServer.RequestFraming
import ReverseProxy.Rfc7230.Response

/-!
# Framing of a relayed response

The worker relays the first head of an upstream and the body its recorded framing
gives it.  Neither the method of the request nor the status code is looked at,
and without a recorded framing there is no body.
-/

namespace ReverseProxy

open Library Rfc7230 Http1Headers MessageHead RequestBodyPump Outcome H1Reader ResponseSender List

/-! ## The last line that frames a message -/

section

variable [StrUtils]

/-- A line the parser takes for the framing of the message. -/
def FramingLine (line : Bytes) : Prop := ∃ name value, splitField line = some (name, value) ∧
    (isNamed name contentLenHeader ∨ isNamed name transferEncodingHeader ∧ readsChunked value)

/-- The framing by the last line that has one. -/
inductive LastFraming (lines : List Bytes) : HttpContentLength → Prop where
  | none (absent : ∀ line ∈ lines, ¬ FramingLine line) : LastFraming lines .none
  | known {before after : List Bytes} {line name value : Bytes} {size : Nat}
      (split : lines = before ++ line :: after)
      (field : splitField line = some (name, value))
      (named : isNamed name contentLenHeader)
      (read : readLength value = some size)
      (last : ∀ other ∈ after, ¬ FramingLine other) :
      LastFraming lines (.known size)
  | chunked {before after : List Bytes} {line name value : Bytes}
      (split : lines = before ++ line :: after)
      (field : splitField line = some (name, value))
      (named : isNamed name transferEncodingHeader)
      (read : readsChunked value)
      (last : ∀ other ∈ after, ¬ FramingLine other) :
      LastFraming lines .chunked

theorem framingStep_of_not {line : Bytes} (other : ¬ FramingLine line)
    (current : HttpContentLength) : framingStep current line = current := by
  unfold framingStep
  cases field : splitField line with
  | none => rfl
  | some parts =>
    obtain ⟨name, value⟩ := parts
    have notLength : isNamed name contentLenHeader = false := by
      by_contra named
      exact other ⟨name, value, field, Or.inl (by simpa using named)⟩
    simp only [notLength, Bool.false_eq_true, if_false]
    by_cases coding : isNamed name transferEncodingHeader
    · have notChunked : readsChunked value = false := by
        by_contra chunked
        exact other ⟨name, value, field, Or.inr ⟨coding, by simpa using chunked⟩⟩
      simp [notChunked]
    · simp [coding]

variable {lines : List Bytes}

theorem foldl_framingStep_of_not (others : ∀ line ∈ lines, ¬ FramingLine line)
    (current : HttpContentLength) :
    lines.foldl framingStep current = current := by
  induction lines with
  | nil => rfl
  | cons line lines ih =>
    rw [foldl_cons, framingStep_of_not (others line (by simp))]
    exact ih fun other member => others other (by simp [member])

theorem LastFraming.recorded {recorded : HttpContentLength} (framing : LastFraming lines recorded) :
    recordedFraming lines = recorded := by
  cases framing with
  | none absent => exact foldl_framingStep_of_not absent _
  | known split field named read last =>
    rw [split, recordedFraming, foldl_append, foldl_cons,
      framingStep_contentLength field named read]
    exact foldl_framingStep_of_not last _
  | chunked split field named read last =>
    rw [split, recordedFraming, foldl_append, foldl_cons,
      framingStep_transferEncoding field named read]
    exact foldl_framingStep_of_not last _

theorem LastFraming.append {line : Bytes} {recorded : HttpContentLength}
    (framing : LastFraming lines recorded) (other : ¬ FramingLine line) :
    LastFraming (lines ++ [line]) recorded := by
  have extended : ∀ {after : List Bytes}, (∀ earlier ∈ after, ¬ FramingLine earlier) →
        ∀ earlier ∈ after ++ [line], ¬ FramingLine earlier := by
    intro after absent earlier member
    rcases mem_append.mp member with old | new
    · exact absent earlier old
    · cases mem_singleton.mp new
      exact other
  cases framing with
  | none absent => exact .none (extended absent)
  | @known before after found name value size split field named read last =>
    have longer : lines ++ [line] = before ++ found :: (after ++ [line]) := by
      simp [split]
    exact .known longer field named read (extended last)
  | @chunked before after found name value split field named read last =>
    have longer : lines ++ [line] = before ++ found :: (after ++ [line]) := by
      simp [split]
    exact .chunked longer field named read (extended last)

theorem lastFraming_recorded (readable : ∀ line ∈ lines, ReadableLine line) :
    LastFraming lines (recordedFraming lines) := by
  induction lines using reverseRecOn with
  | nil => exact .none (by simp)
  | append_singleton lines line ih =>
    have earlier := ih fun other member => readable other (by simp [member])
    have readableLine := readable line (by simp)
    rw [recordedFraming_last]
    by_cases framing : FramingLine line
    · obtain ⟨name, value, field, named | ⟨named, chunked⟩⟩ := framing
      · simp only [ReadableLine, field] at readableLine
        obtain ⟨size, read⟩ := Option.isSome_iff_exists.mp (readableLine.1 named).2
        rw [framingStep_contentLength field named read]
        exact .known rfl field named read (by simp)
      · rw [framingStep_transferEncoding field named chunked]
        exact .chunked rfl field named chunked (by simp)
    · rw [framingStep_of_not framing]
      exact earlier.append framing

end

/-! ## What the worker relays -/

theorem writes_sender {tx after : ResponseSender} {pieces : List Bytes}
    (writes : Writes tx pieces after) :
    after.sent = tx.sent ++ pieces.map .chunk := by
  induction writes with
  | nil sink => simp
  | @cons sink middle final piece pieces written others ih =>
    have sent : middle.sent = sink.sent ++ [.chunk piece] := by
      simp only [writeHttpPayload, send] at written
      cases accepts : sink.accepts with
      | zero => simp [accepts] at written
      | succ more =>
        simp only [accepts, Prod.mk.injEq] at written
        rw [← written.1]
    rw [ih, sent]
    simp

theorem send_true {tx after : ResponseSender} {event : ResponseEvent}
    (sent : tx.send event = (after, true)) : after.sent = tx.sent ++ [event] := by
  unfold send at sent
  split at sent
  · simp at sent
  · cases sent
    rfl

theorem failRequest_unrecorded {env : WorkerEnv} {request : WorkerRequest}
    {attempts : List Attempt} {pump : RequestBodyPump} {tx : ResponseSender}
    {page : ErrorTemplate} :
    (failRequest env request attempts pump tx page).recordedS2c = none := by
  unfold failRequest
  simp only
  split
  · rfl
  · split
    · rfl
    · rfl

section

variable [SliceOfU8Ext] {request : WorkerRequest} {tx : ResponseSender}

theorem relayResponse_done {attempts : List Attempt} {pump : RequestBodyPump}
    {response : UpstreamResponse} {run : WorkerRun}
    (wf : response.reader.buffer.Wf)
    (relayed : relayResponse tx attempts pump response = .ret run)
    (done : run.recordedS2c.isSome) :
    ∃ after body pieces, response.reader.Takes after body ∧
      TakesBody response.contentLength response.reader.pending body after.pending ∧
      run.tx.sent = tx.sent ++ (response.compiled.head :: pieces).map .chunk ++ [.done] ∧
      pieces.flatten = body := by
  obtain ⟨last, count, ended, rfl⟩ := relayResponse_eq_ret relayed
  cases ended with
  | @ended afterHead afterBody _ reader count taken headSent moved doneSent =>
    cases taken with
    | false => simp at done
    | true =>
      obtain ⟨body, consumed, takes⟩ := transferBody_ok
        (show (response.reader.into afterHead).buffer.Wf from wf)
        (transferBody_eq_ret moved)
      obtain ⟨pieces, writes, whole, _⟩ := consumed.writes
      refine ⟨reader, body, pieces,
        { wf := consumed.wf
          pending := consumed.pending
          available := consumed.available },
        takes, ?_, whole⟩
      have bodySent : afterBody.sent = afterHead.sent ++ pieces.map .chunk := writes_sender writes
      simp [send_true doneSent, bodySent, send_true headSent]
  | _ => simp at done

variable [StrUtils] [Platform]

theorem readResponseHead_some {events : List ReadEvent} {ended : AttemptEnd}
    {response : UpstreamResponse}
    (read : readResponseHead request events = .ret (ended, some response)) :
    ∃ (head : MessageHead) (buffered : Bytes) (headers : Http1Headers), response.reader.buffer.Wf ∧
      unread events = head.bytes ++ response.reader.pending ∧
      AcceptedHead head headers ∧
      response.contentLength = recordedFraming head.lines ∧
      compileHeaders request.responseContext (head.bytes ++ buffered) headers =
        .ret (.ok response.compiled) := by
  unfold readResponseHead at read
  simp only [bind_eq_ret_iff] at read
  obtain ⟨⟨reader, result⟩, parsed, continued⟩ := read
  cases result with
  | error err => simp at continued
  | ok headers =>
    obtain ⟨received, accepted⟩ := readHeaders_ok (LoopBuffer.new_wf _) parsed
    obtain ⟨head, buffered, contents⟩ := exists_head_of_parse accepted
    rw [contents] at accepted
    have facts := acceptedHead_of_parse accepted
    have dropped := commitRead_takes received.wf contents
    have both := received.trans dropped
    simp only [bind_eq_ret_iff] at continued
    obtain ⟨data, view, compiled, built, finished⟩ := continued
    rw [LoopBuffer.getData_of_wf received.wf, contents] at view
    cases view
    cases compiled with
    | error err => simp at finished
    | ok compiled =>
      cases finished
      rw [facts.stop]
      refine ⟨head, buffered, headers, both.wf, ?_, facts, facts.contentLength, built⟩
      simpa [pending] using both.pending

omit [StrUtils] in
theorem compiled_response {context : CompileContext} {head : MessageHead}
    {buffered : Bytes} {headers : Http1Headers} {compiled : CompiledHeaders}
    (noPath : context.mcpPath = none)
    (firstLineEnd : headers.firstLineEnd = head.firstLine.length)
    (built : compileHeaders context (head.bytes ++ buffered) headers = .ret (.ok compiled)) :
    ∃ reader added, addedHeaders context reader context.kind.modifyHeaders.addHeaders = .ret added ∧
      (PlainInsertions context added → ∃ sent : MessageHead,
        compiled.head = sent.bytes ∧ sent.firstLine = head.firstLine ∧
        fieldValues transferEncodingHeader sent.lines =
          sentValues context transferEncodingHeader head.lines added ∧
        fieldValues contentLenHeader sent.lines =
          sentValues context contentLenHeader head.lines added) := by
  obtain ⟨colons, added, xffWritten, configured, made⟩ :=
    buildHead_eq_ok firstLineEnd (buildHead_of_compileHeaders built)
  refine ⟨_, added, configured, ?_⟩
  intro plain
  obtain ⟨sent, bytes, firstLine, lines⟩ := made plain
  refine ⟨sent, bytes, ?_, ?_, ?_⟩
  · rw [firstLine, forwardedFirstLine, noPath]
  · rw [lines]
    exact fieldValues_forwarded context
      (show NotOwn transferEncodingHeader by decide) colons xffWritten added
  · rw [lines]
    exact fieldValues_forwarded context
      (show NotOwn contentLenHeader by decide) colons xffWritten added

end

/-! ## Writing leaves the response alone -/

@[simp] theorem UpstreamConnection.write_response
    (connection : UpstreamConnection) (buffer : Bytes) :
    (connection.write buffer).1.response = connection.response := by
  unfold write
  split
  · rfl
  · rfl
  · rfl

theorem streamChunks_response (rx : List Bytes) (pump : RequestBodyPump)
    (upstream : UpstreamConnection) :
    (streamChunks rx pump upstream).2.1.response =
      upstream.response := by
  induction rx generalizing pump upstream with
  | nil => rfl
  | cons chunk rx ih =>
    rw [streamChunks]
    have kept := upstream.write_response chunk
    cases written : upstream.write chunk with
    | mk next result =>
      rw [written] at kept
      cases result with
      | error err => exact kept
      | ok value => rw [← kept]; exact ih _ next

theorem resend_response (pump : RequestBodyPump) (upstream : UpstreamConnection) :
    (pump.resend upstream).1.response = upstream.response := by
  unfold resend
  split
  · rfl
  · split
    · rfl
    · exact upstream.write_response _

theorem sendRequest_response {head : Bytes} {pump stop : RequestBodyPump}
    {upstream connection : UpstreamConnection}
    {result : Except AttemptEnd Unit}
    (sent : sendRequest head upstream pump = (stop, connection, result)) :
    connection.response = upstream.response := by
  have headKept : (upstream.sendHeadBytes head).1.response =
      upstream.response := by
    unfold UpstreamConnection.sendHeadBytes
    split
    · rfl
    · exact upstream.write_response head
  unfold sendRequest at sent
  split at sent
  · next afterHead err headSent =>
      cases sent
      rw [← headKept, headSent]
  next afterHead _ headSent =>
    rw [headSent] at headKept
    have resentKept := resend_response pump afterHead
    split at sent
    · next afterReplay err resent =>
        cases sent
        rw [← headKept, ← resentKept, resent]
    next afterReplay _ resent =>
      have streamedKept := streamChunks_response pump.rx pump afterReplay
      rw [resent] at resentKept
      split at sent
      · next reached last err streamed =>
          cases sent
          rw [stream] at streamed
          rw [← headKept, ← resentKept, ← streamedKept, streamed]
      next reached last _ streamed =>
        cases sent
        rw [stream] at streamed
        rw [← headKept, ← resentKept, ← streamedKept, streamed]

section

variable [SliceOfU8Ext] [StrUtils] [Platform] {env : WorkerEnv}
  {request : WorkerRequest} {tx : ResponseSender}

theorem deliver_response {retries index : Nat} {pump stop : RequestBodyPump}
    {before after : List Attempt} {response : UpstreamResponse}
    (position : before.length = index)
    (delivered : deliver env request tx retries index pump before =
      .ret (after, stop, .ok response)) :
    ∃ upstream, env.acquire (after.length - 1) = .ok upstream ∧
      ∃ ended, readResponseHead request upstream.response = .ret (ended, some response) := by
  induction retries using Nat.strong_induction_on generalizing index pump before with
  | _ retries ih =>
    rcases deliver_cases delivered with ⟨err, _, _, _, failed⟩ |
      ⟨upstream, attempt, found, acquired, ran, ended⟩
    · cases failed
    rcases ended with ⟨rfl, _, same, _⟩ | ⟨fewer, rfl, _, _, continued⟩
    · cases found with
      | none => cases same
      | some found =>
        cases same
        refine ⟨upstream, by simpa [position] using acquired, ?_⟩
        unfold runAttempt at ran
        split at ran
        · cases ran
        next stop connection _ sent =>
          rw [bind_eq_ret_iff] at ran
          obtain ⟨⟨ended, answer⟩, read, made⟩ := ran
          cases made
          rw [sendRequest_response sent] at read
          exact ⟨ended, read⟩
    · exact ih fewer (by omega) (by simp [position]) continued

end

/-! ## Complete final responses -/

/-- A stream in any split into reads, closed behind the last of them. -/
abbrev Pieces : Type := List { piece : Bytes // piece ≠ [] }

def Pieces.reads (pieces : Pieces) : List ReadEvent := pieces.map fun piece => .data piece.val

def Pieces.stream (pieces : Pieces) : Bytes := pieces.flatMap (·.val)

theorem Pieces.unread_reads (pieces : Pieces) : unread pieces.reads = pieces.stream := by
  induction pieces with
  | nil => rfl
  | cons piece pieces ih =>
    simpa [Pieces.reads, Pieces.stream, unread] using ih

/-- What was relayed is a final response to the request, with the body of the
final response that the upstream sent behind any interim ones. -/
def RelaysFinalResponse (method stream relayed : Bytes) : Prop :=
  ∃ (interim : List MessageHead) (head sent : MessageHead) (body rest : Bytes),
    (∀ earlier ∈ interim, Interim earlier) ∧
    stream = interim.flatMap bytes ++ head.bytes ++ body ++ rest ∧
    FinalResponse method head body rest ∧
    relayed = sent.bytes ++ body ∧ FinalResponse method sent body rest

/-- The stream is a final response from its first byte on, the endpoint leaves
that response framed as it is, and the last line that frames it describes the
body that it has. -/
def FramedByLastLine [StrUtils] (method : Bytes) (context : CompileContext)
    (added : List Bytes) (stream : Bytes) : Prop :=
  ∃ (head : MessageHead) (body rest : Bytes) (recorded : HttpContentLength),
    stream = head.bytes ++ body ++ rest ∧
    FinalResponse method head body rest ∧
    FinalBody method head.firstLine (sentValues context transferEncodingHeader head.lines added)
      (sentValues context contentLenHeader head.lines added) body rest ∧
    LastFraming head.lines recorded ∧
    TakesBody recorded (body ++ rest) body rest

theorem TakesBody.unique {recorded : HttpContentLength} {stream taken rest taken' rest' : Bytes}
    (split : stream = taken ++ rest) (split' : stream = taken' ++ rest')
    (left : TakesBody recorded stream taken rest)
    (right : TakesBody recorded stream taken' rest') :
    taken = taken' ∧ rest = rest' := by
  cases recorded with
  | none => exact append_inj (split ▸ split') (by rw [left, right])
  | known size => exact append_inj (split ▸ split') (left.trans right.symm)
  | chunked => exact RelayedChunks.unique left right

/-- A relayed head keeps the status line, so no interim response is skipped. -/
theorem RelaysFinalResponse.inversion {method taken rest : Bytes}
    {head sent : MessageHead} (firstLine : sent.firstLine = head.firstLine)
    (relays : RelaysFinalResponse method (head.bytes ++ taken ++ rest) (sent.bytes ++ taken)) :
    FinalResponse method head taken rest ∧
      FinalResponse method sent taken rest := by
  obtain ⟨interim, other, otherSent, body, left, earlier, stream, final,
    relayed, sentFinal⟩ := relays
  obtain ⟨rfl, rfl⟩ := unique relayed
  cases interim with
  | cons first interim =>
    rw [flatMap_cons] at stream
    simp only [append_assoc] at stream
    obtain ⟨rfl, _⟩ := unique stream
    rw [FinalResponse, firstLine] at sentFinal
    exact (sentFinal.not_interim (earlier head (by simp))).elim
  | nil =>
    simp only [flatMap_nil, nil_append, append_assoc]
      at stream
    obtain ⟨rfl, rests⟩ := unique stream
    cases append_cancel_left rests
    exact ⟨final, sentFinal⟩

theorem relaysFinalResponse_iff [StrUtils] {method taken rest : Bytes}
    {head sent : MessageHead} {context : CompileContext} {added : List Bytes}
    (firstLine : sent.firstLine = head.firstLine)
    (codings : fieldValues transferEncodingHeader sent.lines =
      sentValues context transferEncodingHeader head.lines added)
    (lengths : fieldValues contentLenHeader sent.lines =
      sentValues context contentLenHeader head.lines added)
    (readable : ∀ line ∈ head.lines, ReadableLine line)
    (takes : TakesBody (recordedFraming head.lines) (taken ++ rest) taken rest) :
    RelaysFinalResponse method (head.bytes ++ taken ++ rest) (sent.bytes ++ taken) ↔
      FramedByLastLine method context added (head.bytes ++ taken ++ rest) := by
  constructor
  · intro relays
    obtain ⟨final, sentFinal⟩ := relays.inversion firstLine
    rw [FinalResponse, firstLine, codings, lengths] at sentFinal
    exact ⟨head, taken, rest, _, rfl, final, sentFinal, lastFraming_recorded readable, takes⟩
  · rintro ⟨other, body, left, recorded, stream, final, sentFinal, framing, takesBody⟩
    simp only [append_assoc] at stream
    obtain ⟨rfl, rests⟩ := unique stream
    cases framing.recorded
    obtain ⟨rfl, rfl⟩ := TakesBody.unique rfl rests takes (rests ▸ takesBody)
    refine ⟨[], head, sent, taken, rest, by simp, by simp, final, rfl, ?_⟩
    rw [FinalResponse, firstLine, codings, lengths]
    exact sentFinal

section

variable [SliceOfU8Ext] [StrUtils] [Platform] {env : WorkerEnv}
  {request : WorkerRequest} {tx : ResponseSender}

/-- The bytes relayed in front of `Done` are one complete final response
exactly when the stream is one from its start, framed by its last framing
line. -/
theorem relays_final_response_iff_framed {run : WorkerRun}
    {upstream : UpstreamConnection} {pieces : Pieces}
    (finished : runUpstreamRequest env request tx = .ret run)
    (done : run.recordedS2c.isSome)
    (acquired : env.acquire (run.attempts.length - 1) = .ok upstream)
    (closes : upstream.response = pieces.reads) :
    ∃ events reader added, run.tx.sent = tx.sent ++ events ++ [.done] ∧
      addedHeaders request.responseContext reader
          request.responseContext.kind.modifyHeaders.addHeaders =
        .ret added ∧
      (PlainInsertions request.responseContext added →
        (RelaysFinalResponse (requestMethod request.upstream.head)
            pieces.stream (responseBytes events) ↔
          FramedByLastLine (requestMethod request.upstream.head)
            request.responseContext added pieces.stream)) := by
  unfold runUpstreamRequest at finished
  rw [bind_eq_ret_iff] at finished
  obtain ⟨⟨attempts, pump, result⟩, delivered, continued⟩ := finished
  cases result with
  | error page =>
    cases continued
    simp [failRequest_unrecorded] at done
  | ok response =>
    have sameAttempts := (relayResponse_keeps continued).1
    obtain ⟨used, reacquired, ended, read⟩ := deliver_response length_nil delivered
    rw [← sameAttempts, acquired] at reacquired
    cases reacquired
    obtain ⟨head, buffered, headers, wf, stream, facts, recorded, built⟩ :=
      readResponseHead_some read
    obtain ⟨after, body, parts, taken, takes, sent, whole⟩ := relayResponse_done wf continued done
    obtain ⟨reader, added, configured, made⟩ := compiled_response rfl facts.firstLineEnd built
    refine ⟨(response.compiled.head :: parts).map .chunk, reader, added, sent, configured, ?_⟩
    intro plain
    obtain ⟨forwarded, bytes, firstLine, codings, lengths⟩ := made plain
    have source : pieces.stream = head.bytes ++ body ++ after.pending := by
      rw [← pieces.unread_reads, ← closes, stream, taken.pending, append_assoc]
    have relayed : responseBytes ((response.compiled.head :: parts).map .chunk) =
          forwarded.bytes ++ body := by
      have chunks := responseBytes_chunks (response.compiled.head :: parts) []
      rw [append_nil] at chunks
      rw [chunks, flatten_cons, whole, bytes]
      simp [responseBytes]
    rw [taken.pending, recorded] at takes
    rw [source, relayed]
    exact relaysFinalResponse_iff firstLine codings lengths facts.readable takes

end

/-! ## Responses without a length and interim responses -/

section

attribute [local instance] linearSearch asciiCase barePlatform

/-- Every connection answers with the same stream. -/
def answering (pieces : Pieces) : WorkerEnv :=
  { acquire := fun _ => .ok { reused := false, response := pieces.reads } }

/-- A response with a length, split inside its head. -/
def lengthAnswer : Pieces := [⟨ascii "HTTP/1.1 200 OK\r\nConte", by decide⟩,
    ⟨ascii "nt-Length: 5\r\n\r\nhello", by decide⟩]

theorem relays_final_response_iff_framed_lengthAnswer :
    ∃ run, runUpstreamRequest (answering lengthAnswer) upload { accepts := 9 } = .ret run ∧
      run.recordedS2c.isSome ∧
      ∃ events reader added, run.tx.sent = [] ++ events ++ [.done] ∧
        addedHeaders upload.responseContext reader [] = .ret added ∧
        (PlainInsertions upload.responseContext added →
          (RelaysFinalResponse (ascii "POST") lengthAnswer.stream (responseBytes events) ↔
            FramedByLastLine (ascii "POST") upload.responseContext added lengthAnswer.stream)) := by
  have evaluated : (runUpstreamRequest (answering lengthAnswer) upload
      { accepts := 9 } >>= fun run => .ret run.recordedS2c) =
      .ret (some 5) := by
    decide +kernel
  rw [bind_eq_ret_iff] at evaluated
  obtain ⟨run, finished, recorded⟩ := evaluated
  have done : run.recordedS2c.isSome := by
    rw [ret.inj recorded]
    rfl
  have method : requestMethod upload.upstream.head = ascii "POST" := by
    decide
  rw [← method]
  exact ⟨run, finished, done, relays_final_response_iff_framed finished done rfl rfl⟩

/-- A response whose body ends with the connection. -/
def closeDelimited : Pieces := [⟨ascii "HTTP/1.1 200 OK\r\n\r\nhello", by decide⟩]

/-- An interim response in front of the final one. -/
def interimFirst : Pieces := [⟨ascii "HTTP/1.1 100 Continue\r\n\r\n", by decide⟩,
    ⟨ascii "HTTP/1.1 200 OK\r\nContent-Length: 2\r\n\r\nhi", by decide⟩]

/-- The first response reaches the client without its body, and of the second
one the client receives the interim head for the answer. -/
theorem unframed_responses_break_relay :
    (∃ run, runUpstreamRequest (answering closeDelimited) upload { accepts := 9 } = .ret run ∧
      run.tx.sent = [.chunk (ascii "HTTP/1.1 200 OK\r\n\r\n"), .done] ∧
      ¬ RelaysFinalResponse (ascii "POST") closeDelimited.stream
        (ascii "HTTP/1.1 200 OK\r\n\r\n")) ∧
    ∃ run, runUpstreamRequest (answering interimFirst) upload { accepts := 9 } = .ret run ∧
      run.tx.sent = [.chunk (ascii "HTTP/1.1 100 Continue\r\n\r\n"), .done] ∧
      ¬ RelaysFinalResponse (ascii "POST") interimFirst.stream
        (ascii "HTTP/1.1 100 Continue\r\n\r\n") := by
  have closing : (runUpstreamRequest (answering closeDelimited) upload
      { accepts := 9 } >>= fun run => .ret run.tx.sent) =
      .ret [.chunk (ascii "HTTP/1.1 200 OK\r\n\r\n"), .done] := by
    decide +kernel
  have interim : (runUpstreamRequest (answering interimFirst) upload
      { accepts := 9 } >>= fun run => .ret run.tx.sent) =
      .ret [.chunk (ascii "HTTP/1.1 100 Continue\r\n\r\n"), .done] := by
    decide +kernel
  rw [bind_eq_ret_iff] at closing interim
  obtain ⟨first, firstDone, firstSent⟩ := closing
  obtain ⟨second, secondDone, secondSent⟩ := interim
  refine ⟨⟨first, firstDone, ret.inj firstSent, ?_⟩,
    ⟨second, secondDone, ret.inj secondSent, ?_⟩⟩
  · intro relays
    let okHead := ofPlain (ascii "HTTP/1.1 200 OK") [] (by decide)
    obtain ⟨⟨status, framing, code, _, framed, ends⟩, _⟩ :=
      @RelaysFinalResponse.inversion (ascii "POST") [] (ascii "hello") okHead okHead rfl relays
    have isOk : status = 200 := by
      have evaluated : statusCode okHead.firstLine = some 200 := by decide
      rw [evaluated] at code
      exact (Option.some.inj code).symm
    have untilClose : framing = .untilClose := by
      have evaluated : responseBody (ascii "POST") 200 [] [] =
          some .untilClose := by
        decide
      rw [isOk] at framed
      exact (Option.some.inj (evaluated.symm.trans framed)).symm
    rw [untilClose] at ends
    cases ends
  · intro relays
    let continueHead := ofPlain (ascii "HTTP/1.1 100 Continue") [] (by decide)
    obtain ⟨final, _⟩ := @RelaysFinalResponse.inversion (ascii "POST") []
        (ascii "HTTP/1.1 200 OK\r\nContent-Length: 2\r\n\r\nhi") continueHead
        continueHead rfl relays
    exact final.not_interim ⟨100, by decide, by decide⟩

end

end ReverseProxy
