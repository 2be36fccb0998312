import ReverseProxy.H1ProxyServer.Pipeline.ReaderSteps
import ReverseProxy.H1Utils.RecordedFraming

/-!
# Byte synchronisation of a client connection

A reader has to start every head where the body before it ends.  It does so as
long as the parser and RFC 7230 frame every request alike and its body arrives:
a location that answers without an upstream does not notice a missing body.
-/

namespace ReverseProxy

open Rfc7230 Http1Headers

section

variable [StrUtils]

/-- Heads that announce `size` octets in the eyes of both the parser and
RFC 7230. -/
structure LengthRead (lines : List Bytes) (size : Nat) : Prop where
  noCoding : rawValues transferEncodingHeader lines = []
  spelled : ∀ value ∈ rawValues contentLenHeader lines,
    contentLengthNumber (trimOws value) = some size
  read : ∀ value ∈ rawValues contentLenHeader lines, readLength value = some size
  absent : rawValues contentLenHeader lines = [] → size = 0

/-- Heads that announce a chunked body in the eyes of both. -/
structure ChunkedRead (lines : List Bytes) : Prop where
  noLength : rawValues contentLenHeader lines = []
  read : ∃ value ∈ rawValues transferEncodingHeader lines, readsChunked value
  final : finalCodingChunked (fieldValues transferEncodingHeader lines)

/-- A complete request both readings delimit alike. -/
inductive PlainMessage (head : MessageHead) (body : Bytes) : Prop where
  | length (framed : LengthRead head.lines body.length) : PlainMessage head body
  | chunked (framed : ChunkedRead head.lines) (plain : PlainChunks body) : PlainMessage head body

theorem LengthRead.recorded {lines : List Bytes} {size : Nat} (framed : LengthRead lines size) :
    recordedFraming lines = .known size ∨
      (recordedFraming lines = .none ∧ size = 0) := by
  have notChunked : ∀ value ∈ rawValues transferEncodingHeader lines,
      ¬ readsChunked value := by
    simp [framed.noCoding]
  by_cases present : rawValues contentLenHeader lines = []
  · exact Or.inr ⟨recordedFraming_none present notChunked, framed.absent present⟩
  · exact Or.inl (recordedFraming_known framed.read present notChunked)

theorem ChunkedRead.recorded {lines : List Bytes} (framed : ChunkedRead lines) :
    recordedFraming lines = .chunked :=
  recordedFraming_chunked framed.noLength framed.read

variable {head : MessageHead} {body : Bytes}

theorem PlainMessage.requestMessage (plain : PlainMessage head body) :
    RequestMessage head body := by
  cases plain with
  | length framed =>
    refine ⟨.length body.length, requestBody_eq_length_iff.mpr ⟨?_, ?_⟩, rfl⟩
    · simp [fieldValues, framed.noCoding]
    · rw [agreedLength_eq_some_iff]
      constructor
      · intro value member
        obtain ⟨raw, inside, rfl⟩ := List.mem_map.mp member
        exact framed.spelled raw inside
      · intro empty
        exact framed.absent (List.map_eq_nil_iff.mp empty)
  | chunked framed plain =>
    exact ⟨.chunked, requestBody_eq_chunked_iff.mpr framed.final, plain.chunkedBody⟩

theorem PlainMessage.arrives (plain : PlainMessage head body) (rest : Bytes) :
    BodyArrives (recordedFraming head.lines) (body ++ rest) := by
  cases plain with
  | length framed =>
    rcases framed.recorded with known | ⟨nothing, _⟩
    · rw [known]
      simp [BodyArrives]
    · rw [nothing]
      trivial
  | chunked framed plain =>
    rw [framed.recorded]
    exact ⟨body, rest, rfl, plain⟩

theorem PlainMessage.taken_eq {rest taken after : Bytes} (plain : PlainMessage head body)
    (takes : TakesBody (recordedFraming head.lines) (body ++ rest) taken after)
    (split : body ++ rest = taken ++ after) : taken = body := by
  have ofLength : taken.length = body.length → taken = body := by
    intro lengths
    exact (List.append_inj split lengths.symm).1.symm
  cases plain with
  | length framed =>
    rcases framed.recorded with known | ⟨nothing, zero⟩
    · rw [known] at takes
      exact ofLength takes
    · rw [nothing] at takes
      have empty : taken = [] := takes
      exact ofLength (by rw [empty, zero]; rfl)
  | chunked framed plain =>
    rw [framed.recorded] at takes
    exact (takes.unique (plain.relayed rest)).1

end

/-! ## One step -/

/-- The bytes that arrive before a read fails begin with a plain request. -/
def RequestArrives [StrUtils] (reader : H1Reader) : Prop :=
  ∃ head body rest, PlainMessage head body ∧ reader.available = head.bytes ++ (body ++ rest)

section

variable [SliceOfU8Ext] [StrUtils]

theorem BodyLeft.takes {before after : H1Reader} {head : MessageHead}
    {body rest : Bytes} (plain : PlainMessage head body)
    (wf : before.buffer.Wf) (arrived : before.available = body ++ rest)
    (left : BodyLeft before (recordedFraming head.lines) after) :
    before.Takes after body := by
  have taking : ∃ taken, before.Takes after taken ∧
      TakesBody (recordedFraming head.lines) before.pending taken
        after.pending := by
    cases left with
    | transferred done => exact H1Reader.transferBody_takes wf done
    | drained done =>
      have arrives := plain.arrives rest
      rw [← arrived] at arrives
      exact H1Reader.drain_takes wf arrives done
  obtain ⟨taken, takes, body'⟩ := taking
  obtain ⟨later, unreadEq⟩ := readable_isPrefix before.events
  have pending : before.pending = body ++ (rest ++ later) := by
    rw [H1Reader.pending, ← unreadEq, ← List.append_assoc,
      ← H1Reader.available, arrived, List.append_assoc]
  rw [pending] at body'
  have same := plain.taken_eq body' (pending ▸ takes.pending)
  exact same ▸ takes

variable [RemoteEndpointParser] [Platform]

theorem readAndDispatch_takes {env : StepEnv} {state : ReaderState}
    {result : StepResult} (wf : state.reader.buffer.Wf)
    (arrives : RequestArrives state.reader)
    (stepped : readAndDispatch env state = .ret result)
    (continues : result.step = .continueReading) :
    ∃ head body, RequestMessage head body ∧
      state.reader.Takes result.state.reader (head.bytes ++ body) := by
  obtain ⟨head, body, rest, plain, arrived⟩ := arrives
  obtain ⟨reader, headers, read, left⟩ := readAndDispatch_left stepped continues
  obtain ⟨looked, parsed⟩ := H1Reader.readHeaders_ok wf read
  obtain ⟨found, more, contents⟩ := exists_head_of_parse parsed
  rw [contents] at parsed
  have accepted := acceptedHead_of_parse parsed
  have available : reader.available = head.bytes ++ (body ++ rest) := by
    rw [← arrived, looked.available, List.nil_append]
  have same : found.bytes ++ (more ++ readable reader.events) = head.bytes ++ (body ++ rest) := by
    rw [← available, H1Reader.available, contents, List.append_assoc]
  obtain ⟨rfl, _⟩ := MessageHead.unique same
  have committed := H1Reader.commitRead_takes looked.wf contents
  rw [← accepted.stop] at committed
  rw [accepted.contentLength] at left
  have bodyAvailable : (reader.commitRead headers.stop).available = body ++ rest := by
    have split := committed.available
    rw [available] at split
    exact (List.append_cancel_left split).symm
  have taken := left.takes plain committed.wf bodyAvailable
  have whole := looked.trans (committed.trans taken)
  rw [List.nil_append] at whole
  exact ⟨found, body, plain.requestMessage, whole⟩

/-! ## Whole connections -/

/-- A run of the reader loop in which every request arrives. -/
inductive ReadingRun : List StepEnv → ReaderState → ReaderState → Prop where
  | start (state : ReaderState) : ReadingRun [] state state
  | step {env : StepEnv} {envs : List StepEnv} {state final : ReaderState}
      {result : StepResult} (arrives : RequestArrives state.reader)
      (stepped : readAndDispatch env state = .ret result)
      (continues : result.step = .continueReading)
      (others : ReadingRun envs result.state final) :
      ReadingRun (env :: envs) state final

/-- After any number of steps the connection stands behind as many complete
requests: every head starts where the body before it ends. -/
theorem reader_stays_synchronised {envs : List StepEnv}
    {initial final : ReaderState} (wf : initial.reader.buffer.Wf)
    (run : ReadingRun envs initial final) :
    ∃ messages : List (MessageHead × Bytes), messages.length = envs.length ∧
        (∀ message ∈ messages, RequestMessage message.1 message.2) ∧ initial.reader.pending =
            (messages.flatMap fun message => message.1.bytes ++ message.2) ++
              final.reader.pending := by
  induction run with
  | start state => exact ⟨[], rfl, by simp, rfl⟩
  | step arrives stepped continues others ih =>
    obtain ⟨head, body, message, takes⟩ := readAndDispatch_takes wf arrives stepped continues
    obtain ⟨messages, lengths, complete, pending⟩ := ih takes.wf
    refine ⟨(head, body) :: messages, ?_, ?_, ?_⟩
    · simp [lengths]
    · intro other member
      rcases List.mem_cons.mp member with rfl | inside
      · exact message
      · exact complete other inside
    · rw [takes.pending, pending]
      simp

end

/-! ## A location that answers without an upstream -/

section

attribute [local instance] linearSearch asciiCase barePlatform noRemoteEndpoints

def staticEndpoint : HttpEndpointInfo :=
  { hostEndpoint := { src := "80".toList, port := some 80, index := none }
    listenEndpointType := .http1
    locations := [
      { path := ['/']
        proxyPassTo := .static { statusCode := 200, contentType := none, body := [] } }] }

/-- A fresh connection to the static endpoint that will deliver `stream`. -/
def staticConnection (stream : Bytes) : ReaderState :=
  { reader := { events := [.data stream], buffer := .new fun _ => 0 }
    connectionInfo :=
      { cnUserName := none
        connectionIp := none
        endpointInfo := none
        listenConfig := { endpoints := [staticEndpoint], listenEndpointType := .http1 } } }

def postHead : MessageHead := .ofPlain (ascii "POST / HTTP/1.1") [ascii "Content-Length: 5"]
    (by decide)

theorem postHead_arrives :
    RequestArrives (staticConnection (postHead.bytes ++ ascii "hello")).reader := by
  refine ⟨postHead, ascii "hello", [], .length ?_, ?_⟩
  · exact
      { noCoding := by decide +kernel
        spelled := by decide +kernel
        read := by decide +kernel
        absent := by decide +kernel }
  · decide +kernel

theorem reader_stays_synchronised_postHead :
    ∃ final, ReadingRun [{}] (staticConnection (postHead.bytes ++ ascii "hello")) final ∧
      ∃ messages : List (MessageHead × Bytes), messages.length = 1 ∧
          (∀ message ∈ messages, RequestMessage message.1 message.2) ∧
            postHead.bytes ++ ascii "hello" =
              (messages.flatMap fun message => message.1.bytes ++ message.2) ++
                final.reader.pending := by
  have evaluated : (readAndDispatch {}
      (staticConnection (postHead.bytes ++ ascii "hello")) >>= fun result =>
        .ret result.step) = .ret .continueReading := by
    decide +kernel
  rw [Outcome.bind_eq_ret_iff] at evaluated
  obtain ⟨result, stepped, continues⟩ := evaluated
  have run : ReadingRun [{}] (staticConnection (postHead.bytes ++ ascii "hello")) result.state :=
    .step postHead_arrives stepped (by simpa using continues) (.start _)
  have synchronised := reader_stays_synchronised (LoopBuffer.new_wf fun _ => 0) run
  refine ⟨result.state, run, ?_⟩
  have pending : (staticConnection (postHead.bytes ++ ascii "hello")).reader.pending =
        postHead.bytes ++ ascii "hello" := by
    decide +kernel
  rw [pending] at synchronised
  exact synchronised

def chunkedHead : MessageHead :=
  .ofPlain (ascii "POST / HTTP/1.1") [ascii "Transfer-Encoding: chunked"] (by decide)

def hiddenRequest : Bytes := ascii "GET /hidden HTTP/1.1\r\n\r\n"

/-- The drain stops at the first octets of the body, which are no chunk size;
the step goes on and the body is read as the next request. -/
theorem failed_drain_loses_synchronisation :
    ∃ result,
      readAndDispatch {} (staticConnection (chunkedHead.bytes ++ hiddenRequest)) = .ret result ∧
      result.step = .continueReading ∧
      result.state.reader.pending = hiddenRequest ∧
      ¬ ∃ head body, RequestMessage head body ∧ chunkedHead.bytes ++ hiddenRequest =
          head.bytes ++ body ++ result.state.reader.pending := by
  have evaluated : (readAndDispatch {}
      (staticConnection (chunkedHead.bytes ++ hiddenRequest)) >>= fun result =>
        .ret (result.step, result.state.reader.pending)) =
      .ret (.continueReading, hiddenRequest) := by
    decide +kernel
  rw [Outcome.bind_eq_ret_iff] at evaluated
  obtain ⟨result, stepped, view⟩ := evaluated
  have both : result.step = .continueReading ∧ result.state.reader.pending = hiddenRequest := by
    simpa using view
  obtain ⟨continues, pending⟩ := both
  refine ⟨result, stepped, continues, pending, ?_⟩
  rintro ⟨head, body, ⟨framing, framed, message⟩, split⟩
  rw [pending] at split
  have withRest : chunkedHead.bytes ++ hiddenRequest = head.bytes ++ (body ++ hiddenRequest) := by
    rw [split, List.append_assoc]
  obtain ⟨rfl, rest⟩ := MessageHead.unique withRest
  have empty : body = [] := by simpa using rest
  have chunked : requestBody chunkedHead.lines = some .chunked := by
    decide +kernel
  rw [chunked] at framed
  cases framed
  exact ChunkedBody.ne_nil message empty

end

end ReverseProxy
