import ReverseProxy.H1ProxyServer.Pipeline.Worker

/-!
# Delivery of a request under replay

Whatever fails in the attempts, an upstream connection only ever receives a
beginning of the head and the body of the request, and the connection whose
response is used receives all of it once.
-/

namespace ReverseProxy

open Outcome List

/-! ## Writes -/

namespace UpstreamConnection

variable {connection next : UpstreamConnection} {buffer : Bytes}

theorem write_ok (written : connection.write buffer = (next, .ok ())) :
    next.wire = connection.wire ++ buffer := by
  unfold write at written
  split at written
  · cases written
    rfl
  · cases written
    rfl
  · simp at written

theorem write_error {err : NetworkError} (written : connection.write buffer = (next, .error err)) :
    ∃ part, part <+: buffer ∧ next.wire = connection.wire ++ part := by
  unfold write at written
  split at written
  · simp at written
  · simp at written
  · next count found rest listed =>
      cases written
      exact ⟨buffer.take count, take_prefix _ _, rfl⟩

end UpstreamConnection

/-! ## The pump -/

namespace RequestBodyPump

/-- The pump has taken the chunks `taken` off the reader: they are counted
once, and they are all in the replay buffer unless they outgrew the window. -/
structure Tracks (chunks : List Bytes) (pump : RequestBodyPump) (taken : List Bytes) : Prop where
  split : chunks = taken ++ pump.rx
  total : pump.total = taken.flatten.length
  replay : pump.replay =
    if taken.flatten.length ≤ replayWindow then some taken.flatten else none

theorem tracks_initial (chunks : List Bytes) : Tracks chunks { rx := chunks } [] :=
  { split := rfl
    total := rfl
    replay := rfl }

variable {chunks taken : List Bytes} {pump : RequestBodyPump}

theorem Tracks.isReplayable_iff (tracks : Tracks chunks pump taken) :
    pump.isReplayable = true ↔ taken.flatten.length ≤ replayWindow := by
  rw [isReplayable, tracks.replay]
  split
  · next inside => exact ⟨fun _ => inside, fun _ => rfl⟩
  next outside =>
    constructor
    · intro replayable
      simp at replayable
    · intro inside
      exact (outside inside).elim

variable {rx : List Bytes}

theorem Tracks.takeChunk {chunk : Bytes}
    (tracks : Tracks chunks pump taken) (next : pump.rx = chunk :: rx) :
    Tracks chunks (pump.takeChunk chunk rx) (taken ++ [chunk]) := by
  refine
    { split := ?_
      total := ?_
      replay := ?_ }
  · simp [RequestBodyPump.takeChunk, tracks.split, next]
  · simp [RequestBodyPump.takeChunk, tracks.total]
  · rw [RequestBodyPump.takeChunk, tracks.replay]
    by_cases inside : taken.flatten.length ≤ replayWindow
    · by_cases fits : taken.flatten.length + chunk.length ≤ replayWindow
      · have notOver : ¬ taken.flatten.length + chunk.length >
            replayWindow := by omega
        simp only [inside, if_true, Option.bind_some, notOver, if_false,
          flatten_append, flatten_cons, flatten_nil,
          append_nil, length_append, fits]
      have beyond : taken.flatten.length + chunk.length > replayWindow := by
        omega
      simp only [inside, if_true, Option.bind_some, beyond,
        flatten_append, flatten_cons, flatten_nil,
        append_nil, length_append, fits, if_false]
    · have outside : ¬ (taken ++ [chunk]).flatten.length ≤ replayWindow := by
        simp only [flatten_append, length_append]
        omega
      simp only [inside, if_false, Option.bind_none, outside]

theorem Tracks.complete (tracks : Tracks chunks pump taken) (ended : pump.rx = []) :
    Tracks chunks pump.complete taken :=
  { split := by rw [tracks.split, ended]; rfl
    total := tracks.total
    replay := tracks.replay }

variable {stop : RequestBodyPump} {upstream : UpstreamConnection}

/-- Streaming puts a beginning of the remaining chunks on the wire, and all of
them when it succeeds. -/
theorem streamChunks_spec {connection : UpstreamConnection}
    {result : Except NetworkError Unit} (tracks : Tracks chunks pump taken)
    (waiting : pump.rx = rx)
    (streamed : streamChunks rx pump upstream = (stop, connection, result)) :
    ∃ later part, Tracks chunks stop (taken ++ later) ∧
      connection.wire = upstream.wire ++ part ∧ part <+: rx.flatten ∧
        (result = .ok () → stop.rx = [] ∧ part = rx.flatten) := by
  induction rx generalizing pump upstream taken with
  | nil =>
    rw [streamChunks] at streamed
    cases streamed
    refine ⟨[], [], ?_, by simp, nil_prefix, fun _ => ⟨rfl, rfl⟩⟩
    rw [append_nil]
    exact tracks.complete waiting
  | cons chunk rx ih =>
    rw [streamChunks] at streamed
    have taking := tracks.takeChunk waiting
    cases sending : upstream.write chunk with
    | mk next outcome =>
      rw [sending] at streamed
      cases outcome with
      | error err =>
        cases streamed
        obtain ⟨part, isPart, wire⟩ := UpstreamConnection.write_error sending
        refine ⟨[chunk], part, taking, wire, ?_, by simp⟩
        rw [flatten_cons]
        exact isPart.trans (prefix_append _ _)
      | ok value =>
        obtain ⟨later, part, tracking, wire, isPart, finished⟩ := ih taking rfl streamed
        refine ⟨chunk :: later, chunk ++ part, ?_, ?_, ?_, ?_⟩
        · simpa using tracking
        · rw [wire, UpstreamConnection.write_ok sending, append_assoc]
        · rw [flatten_cons]
          exact (prefix_append_right_inj chunk).mpr isPart
        · intro ok
          obtain ⟨ended, whole⟩ := finished ok
          exact ⟨ended, by rw [whole, flatten_cons]⟩

theorem resend_ok {next : UpstreamConnection} {replay : Bytes}
    (remembered : pump.replay = some replay)
    (resent : pump.resend upstream = (next, .ok ())) :
    next.wire = upstream.wire ++ replay := by
  rw [resend, remembered] at resent
  simp only at resent
  split at resent
  · next empty =>
      cases resent
      simp [empty]
  · exact UpstreamConnection.write_ok resent

theorem resend_error {next : UpstreamConnection} {replay : Bytes}
    {err : NetworkError} (remembered : pump.replay = some replay)
    (resent : pump.resend upstream = (next, .error err)) :
    ∃ part, part <+: replay ∧ next.wire = upstream.wire ++ part := by
  rw [resend, remembered] at resent
  simp only at resent
  split at resent
  · simp at resent
  · exact UpstreamConnection.write_error resent

theorem discardChunks_spec {discarded : Nat} {synced : Bool}
    (split : chunks = taken ++ rx) (waiting : pump.rx = rx)
    (total : pump.total = taken.flatten.length)
    (discards : discardChunks rx pump discarded = (stop, synced)) :
    ∃ later, chunks = later ++ stop.rx ∧ stop.total = later.flatten.length := by
  induction rx generalizing pump taken discarded with
  | nil =>
    rw [discardChunks] at discards
    cases discards
    exact ⟨taken, split, total⟩
  | cons chunk rx ih =>
    have taking : chunks = (taken ++ [chunk]) ++ rx := by
      simp [split]
    have counted : pump.total + chunk.length = (taken ++ [chunk]).flatten.length := by
      simp [total]
    rw [discardChunks] at discards
    split at discards
    · cases discards
      exact ⟨taken ++ [chunk], taking, counted⟩
    · exact ih taking rfl counted discards

theorem Tracks.discardRest {synced : Bool} (tracks : Tracks chunks pump taken)
    (discards : pump.discardRest = (stop, synced)) :
    ∃ later, chunks = later ++ stop.rx ∧ stop.total = later.flatten.length := by
  unfold RequestBodyPump.discardRest at discards
  split at discards
  · cases discards
    exact ⟨taken, tracks.split, tracks.total⟩
  · exact discardChunks_spec tracks.split rfl tracks.total discards

end RequestBodyPump

/-! ## One attempt -/

open RequestBodyPump

/-- What one attempt puts on the wire, given that all chunks taken before it
are in the replay buffer. -/
theorem sendRequest_spec {head : Bytes} {chunks taken : List Bytes}
    {upstream connection : UpstreamConnection} {pump stop : RequestBodyPump}
    {result : Except AttemptEnd Unit} (clear : upstream.wire = [])
    (tracks : Tracks chunks pump taken)
    (replayable : pump.isReplayable = true)
    (sent : sendRequest head upstream pump = (stop, connection, result)) :
    (∃ later, Tracks chunks stop (taken ++ later)) ∧ connection.wire <+: head ++ chunks.flatten ∧
        (result = .ok () → stop.rx = [] ∧ connection.wire = head ++ chunks.flatten) := by
  have remembered : pump.replay = some taken.flatten := by
    rw [tracks.replay, if_pos (tracks.isReplayable_iff.mp replayable)]
  have body : chunks.flatten = taken.flatten ++ pump.rx.flatten := by
    rw [tracks.split, flatten_append]
  have stays : ∃ later, Tracks chunks pump (taken ++ later) := ⟨[], by simpa using tracks⟩
  unfold sendRequest at sent
  cases headSent : upstream.sendHeadBytes head with
  | mk afterHead headResult =>
    rw [headSent] at sent
    unfold UpstreamConnection.sendHeadBytes at headSent
    cases headResult with
    | error err =>
      cases sent
      refine ⟨stays, ?_, by simp⟩
      split at headSent
      · cases headSent
        rw [clear]
        exact nil_prefix
      · obtain ⟨part, isPart, wire⟩ := UpstreamConnection.write_error headSent
        rw [wire, clear, nil_append]
        exact isPart.trans (prefix_append _ _)
    | ok value =>
      have headWire : afterHead.wire = head := by
        split at headSent
        · simp at headSent
        · rw [UpstreamConnection.write_ok headSent, clear, nil_append]
      cases resent : pump.resend afterHead with
      | mk afterReplay replayResult =>
        simp only [resent] at sent
        cases replayResult with
        | error err =>
          cases sent
          obtain ⟨part, isPart, wire⟩ := resend_error remembered resent
          refine ⟨stays, ?_, by simp⟩
          rw [wire, headWire, body]
          exact (prefix_append_right_inj _).mpr (isPart.trans (prefix_append _ _))
        | ok value =>
          have replayWire := resend_ok remembered resent
          rw [headWire] at replayWire
          cases streamed : pump.stream afterReplay with
          | mk reached streamRest =>
            obtain ⟨last, streamResult⟩ := streamRest
            obtain ⟨later, part, tracking, wire, isPart, finished⟩ :=
              streamChunks_spec tracks rfl streamed
            rw [replayWire, append_assoc] at wire
            have beginning : last.wire <+: head ++ chunks.flatten := by
              rw [wire, body]
              apply (prefix_append_right_inj _).mpr
              exact (prefix_append_right_inj _).mpr isPart
            simp only [streamed] at sent
            cases streamResult with
            | error err =>
              cases sent
              exact ⟨⟨later, tracking⟩, beginning, by simp⟩
            | ok value =>
              cases sent
              obtain ⟨empty, whole⟩ := finished rfl
              refine ⟨⟨later, tracking⟩, beginning, fun _ => ⟨empty, ?_⟩⟩
              rw [wire, whole, body]

section

variable {request : WorkerRequest} {attempts : List Attempt} {pump : RequestBodyPump}

/-- An attempt that starts with the chunks `taken` off the reader, all of them
in the replay buffer. -/
structure AttemptSpec (request : WorkerRequest) (taken : List Bytes)
    (attempt : Attempt) (response : Option UpstreamResponse) : Prop where
  started : Tracks request.chunks attempt.start taken
  replayable : attempt.start.isReplayable = true
  stopped : ∃ later, Tracks request.chunks attempt.stop (taken ++ later)
  wire : attempt.wire <+: request.upstream.head ++ request.chunks.flatten
  whole : response.isSome →
    attempt.stop.rx = [] ∧ attempt.wire = request.upstream.head ++ request.chunks.flatten

/-- What the delivery loop has done so far. -/
structure DeliverySpec (request : WorkerRequest) (attempts : List Attempt)
    (pump : RequestBodyPump) : Prop where
  tracks : ∃ taken, Tracks request.chunks pump taken
  made : ∀ attempt ∈ attempts, ∃ taken response, AttemptSpec request taken attempt response

theorem DeliverySpec.initial : DeliverySpec request [] { rx := request.chunks } :=
  { tracks := ⟨[], tracks_initial _⟩
    made := by simp }

theorem DeliverySpec.append {attempt : Attempt} {response : Option UpstreamResponse}
    {taken : List Bytes} (spec : DeliverySpec request attempts pump)
    (ran : AttemptSpec request taken attempt response) :
    DeliverySpec request (attempts ++ [attempt]) attempt.stop := by
  obtain ⟨later, stopped⟩ := ran.stopped
  refine { tracks := ⟨_, stopped⟩, made := ?_ }
  intro other member
  rcases mem_append.mp member with old | new
  · exact spec.made other old
  · cases mem_singleton.mp new
    exact ⟨taken, response, ran⟩

theorem AttemptEnd.replayable_of_replays {ended : AttemptEnd} {retriesLeft reused : Bool}
    (replays : ended.replays retriesLeft reused pump = true) :
    pump.isReplayable = true := by
  cases ended with
  | headFailed err | bodyFailed err | responseFailed err => simp_all [AttemptEnd.replays]
  | compileFailed err | responded => simp [AttemptEnd.replays] at replays

end

section

variable [SliceOfU8Ext] [StrUtils] [Platform] {request : WorkerRequest} {tx : ResponseSender}
  {pump : RequestBodyPump}

theorem runAttempt_spec {upstream : UpstreamConnection} {taken : List Bytes}
    {attempt : Attempt} {response : Option UpstreamResponse}
    (clear : upstream.wire = []) (tracks : Tracks request.chunks pump taken)
    (replayable : pump.isReplayable = true)
    (ran : runAttempt request tx upstream pump = .ret (attempt, response)) :
    AttemptSpec request taken attempt response := by
  unfold runAttempt at ran
  cases sent : sendRequest request.upstream.head upstream pump with
  | mk stop rest =>
    obtain ⟨connection, result⟩ := rest
    obtain ⟨stopped, wire, whole⟩ := sendRequest_spec clear tracks replayable sent
    rw [sent] at ran
    cases result with
    | error ended =>
      cases ran
      exact
        { started := tracks
          replayable
          stopped
          wire
          whole := by simp }
    | ok value =>
      simp only [bind_eq_ret_iff] at ran
      obtain ⟨⟨ended, found⟩, _, made⟩ := ran
      cases made
      exact
        { started := tracks
          replayable
          stopped
          wire
          whole := fun _ => whole rfl }

/-! ## The delivery loop -/

variable {env : WorkerEnv} {attempts : List Attempt}

/-- The ways a pass of the loop can go: no connection, the last attempt, or an
attempt that is replayed. -/
theorem deliver_cases {retries index : Nat} {stop : RequestBodyPump} {before after : List Attempt}
    {result : Except ErrorTemplate UpstreamResponse}
    (delivered : deliver env request tx retries index pump before = .ret (after, stop, result)) :
    (∃ err, env.acquire index = .error err ∧ after = before ∧ stop = pump ∧
        result = .error .remoteResourceIsNotAvailable) ∨
      ∃ upstream attempt response, env.acquire index = .ok upstream ∧
        runAttempt request tx { upstream with wire := [] } pump = .ret (attempt, response) ∧
        ((after = before ++ [attempt] ∧ stop = attempt.stop ∧
            result = response.elim (.error attempt.ended.page) .ok ∧
            (response.isSome ∨ retries = 0 ∨
              attempt.ended.replays true attempt.reused attempt.stop = false)) ∨
          ∃ fewer, retries = fewer + 1 ∧ response = none ∧
            attempt.ended.replays true attempt.reused attempt.stop = true ∧
            deliver env request tx fewer (index + 1) attempt.stop
              (before ++ [attempt]) = .ret (after, stop, result)) := by
  unfold deliver at delivered
  split at delivered
  · next err refused =>
      cases delivered
      exact Or.inl ⟨err, refused, rfl, rfl, rfl⟩
  next upstream acquired =>
    simp only [bind_eq_ret_iff] at delivered
    obtain ⟨⟨attempt, response⟩, ran, continued⟩ := delivered
    refine Or.inr ⟨upstream, attempt, response, acquired, ran, ?_⟩
    cases response with
    | some response =>
      cases continued
      exact Or.inl ⟨rfl, rfl, rfl, Or.inl rfl⟩
    | none =>
      cases retries with
      | zero =>
        cases continued
        exact Or.inl ⟨rfl, rfl, rfl, Or.inr (Or.inl rfl)⟩
      | succ fewer =>
        simp only at continued
        split at continued
        · next replays =>
            exact Or.inr ⟨fewer, rfl, rfl, replays, continued⟩
        · next gives =>
            cases continued
            exact Or.inl ⟨rfl, rfl, rfl, Or.inr (Or.inr (by simpa using gives))⟩

theorem deliver_spec {retries index : Nat} {stop : RequestBodyPump} {before after : List Attempt}
    {result : Except ErrorTemplate UpstreamResponse} (spec : DeliverySpec request before pump)
    (replayable : pump.isReplayable = true)
    (delivered : deliver env request tx retries index pump before = .ret (after, stop, result)) :
    DeliverySpec request after stop ∧ after.length ≤ before.length + retries + 1 ∧
        (∀ response, result = .ok response → stop.rx = [] ∧
          ∃ attempt, after.getLast? = some attempt ∧ attempt.wire =
              request.upstream.head ++ request.chunks.flatten) := by
  -- the number of retries left decreases with every replay
  induction retries using Nat.strong_induction_on generalizing index pump before with
  | _ retries ih =>
    rcases deliver_cases delivered with ⟨err, _, rfl, rfl, rfl⟩ |
      ⟨upstream, attempt, response, _, ran, ended⟩
    · exact ⟨spec, by omega, by simp⟩
    obtain ⟨taken, tracks⟩ := spec.tracks
    have ranSpec := runAttempt_spec rfl tracks replayable ran
    have extended := spec.append ranSpec
    rcases ended with ⟨rfl, rfl, rfl, _⟩ | ⟨fewer, rfl, _, replays, continued⟩
    · refine ⟨extended, by simp, ?_⟩
      intro found equality
      cases response with
      | none => simp at equality
      | some response =>
        obtain ⟨empty, whole⟩ := ranSpec.whole rfl
        exact ⟨empty, attempt, by simp, whole⟩
    · obtain ⟨deliverySpec, lengths, whole⟩ := ih fewer (by omega)
        extended (AttemptEnd.replayable_of_replays replays) continued
      refine ⟨deliverySpec, ?_, whole⟩
      simp only [length_append, length_cons, length_nil] at lengths
      omega

/-- The passes of the loop: each but the first follows an attempt that is
replayed. -/
inductive Attempted (env : WorkerEnv) (request : WorkerRequest) (tx : ResponseSender) :
    Nat → RequestBodyPump → List Attempt → Prop where
  | first : Attempted env request tx 0 { rx := request.chunks } []
  | replayed {index : Nat} {pump : RequestBodyPump} {made : List Attempt}
      {upstream : UpstreamConnection} {attempt : Attempt}
      (attempted : Attempted env request tx index pump made)
      (acquired : env.acquire index = .ok upstream)
      (ran : runAttempt request tx { upstream with wire := [] } pump = .ret (attempt, none))
      (replays : attempt.ended.replays true attempt.reused attempt.stop = true) :
      Attempted env request tx (index + 1) attempt.stop (made ++ [attempt])

theorem Attempted.spec {index : Nat} (attempted : Attempted env request tx index pump attempts) :
    DeliverySpec request attempts pump ∧ pump.isReplayable = true := by
  induction attempted with
  | first => exact ⟨.initial, rfl⟩
  | replayed _ _ ran replays ih =>
    obtain ⟨spec, replayable⟩ := ih
    obtain ⟨taken, tracks⟩ := spec.tracks
    exact ⟨spec.append (runAttempt_spec rfl tracks replayable ran),
      AttemptEnd.replayable_of_replays replays⟩

/-- A pass that has written the whole request. -/
def WritesWhole (env : WorkerEnv) (request : WorkerRequest) (tx : ResponseSender) : Prop :=
  ∃ index start made stop connection, ∃ upstream : UpstreamConnection,
    Attempted env request tx index start made ∧ env.acquire index = .ok upstream ∧
    sendRequest request.upstream.head { upstream with wire := [] } start =
      (stop, connection, .ok ()) ∧
    connection.wire = request.upstream.head ++ request.chunks.flatten

/-- A loop that panics or does not end hangs in the response to a request that
was written as a whole. -/
theorem deliver_stuck {retries index : Nat}
    (attempted : Attempted env request tx index pump attempts)
    (stuck : ∀ result, deliver env request tx retries index pump attempts ≠ .ret result) :
    WritesWhole env request tx := by
  induction retries using Nat.strong_induction_on generalizing index pump attempts with
  | _ retries ih =>
    obtain ⟨spec, replayable⟩ := attempted.spec
    obtain ⟨taken, tracks⟩ := spec.tracks
    unfold deliver at stuck
    cases acquired : env.acquire index with
    | error err => simp [acquired] at stuck
    | ok upstream =>
      simp only [acquired] at stuck
      rcases sent : sendRequest request.upstream.head { upstream with wire := [] } pump with
        ⟨stop, connection, ended | _⟩
      · obtain ⟨attempt, ran⟩ : ∃ attempt,
            runAttempt request tx { upstream with wire := [] } pump = .ret (attempt, none) := by
          rw [runAttempt, sent]
          exact ⟨_, rfl⟩
        rw [ran, bind_ret] at stuck
        cases retries with
        | zero => exact absurd rfl (stuck _)
        | succ fewer =>
          simp only at stuck
          split at stuck
          · next replays =>
              exact ih fewer (Nat.lt_succ_self _) (attempted.replayed acquired ran replays) stuck
          · exact absurd rfl (stuck _)
      · obtain ⟨_, _, whole⟩ := sendRequest_spec rfl tracks replayable sent
        exact ⟨_, _, _, _, _, _, attempted, acquired, sent, (whole rfl).2⟩

/-! ## The request as a whole -/

/-- How the relay of a response ends, with the count that is recorded. -/
inductive RelayedTo (tx : ResponseSender) (response : UpstreamResponse) :
    ResponseSender → Option Nat → Prop where
  | refused {after : ResponseSender}
      (headSent : tx.send (.chunk response.compiled.head) = (after, false)) :
      RelayedTo tx response after none
  | upgraded {after : ResponseSender}
      (headSent : tx.send (.chunk response.compiled.head) = (after, true)) :
      RelayedTo tx response (after.send .abort).1 none
  | failed {afterHead afterBody : ResponseSender} {reader : H1Reader} {err : ProxyServerError}
      (headSent : tx.send (.chunk response.compiled.head) = (afterHead, true))
      (moved : response.reader.transferBody afterHead response.contentLength =
        .ret (reader, afterBody, .error err)) :
      RelayedTo tx response (afterBody.send .abort).1 none
  | ended {afterHead afterBody last : ResponseSender} {reader : H1Reader}
      {count : Nat} {taken : Bool}
      (headSent : tx.send (.chunk response.compiled.head) = (afterHead, true))
      (moved : response.reader.transferBody afterHead response.contentLength =
        .ret (reader, afterBody, .ok count))
      (doneSent : afterBody.send .done = (last, taken)) :
      RelayedTo tx response last (if taken then some count else none)

omit [StrUtils] [Platform] in
theorem relayResponse_eq_ret {response : UpstreamResponse} {run : WorkerRun}
    (relayed : relayResponse tx attempts pump response = .ret run) :
    ∃ last count, RelayedTo tx response last count ∧ run =
        { attempts, pump, tx := last, response := some response
          recordedC2s := some pump.total, recordedS2c := count } := by
  unfold relayResponse at relayed
  cases headSent : tx.send (.chunk response.compiled.head) with
  | mk afterHead accepted =>
    simp only [headSent] at relayed
    cases accepted with
    | false =>
      cases relayed
      exact ⟨_, _, .refused headSent, rfl⟩
    | true =>
      simp only at relayed
      split at relayed
      · cases relayed
        exact ⟨_, _, .upgraded headSent, rfl⟩
      rw [bind_eq_ret_iff] at relayed
      obtain ⟨⟨reader, afterBody, result⟩, moved, finished⟩ := relayed
      cases result with
      | error err =>
        cases finished
        exact ⟨_, _, .failed headSent moved, rfl⟩
      | ok count =>
        cases doneSent : afterBody.send .done with
        | mk last taken =>
          simp only [doneSent] at finished
          refine ⟨_, _, .ended headSent moved doneSent, ?_⟩
          cases taken <;> exact (ret.inj finished).symm

omit [StrUtils] [Platform] in
theorem relayResponse_keeps {response : UpstreamResponse} {run : WorkerRun}
    (relayed : relayResponse tx attempts pump response = .ret run) :
    run.attempts = attempts ∧ run.pump = pump ∧
      run.response = some response ∧ run.recordedC2s = some pump.total := by
  obtain ⟨_, _, _, rfl⟩ := relayResponse_eq_ret relayed
  exact ⟨rfl, rfl, rfl, rfl⟩

omit [SliceOfU8Ext] [StrUtils] [Platform] in
theorem failRequest_keeps {pump : RequestBodyPump} {page : ErrorTemplate} :
    (failRequest env request attempts pump tx page).attempts = attempts ∧
      (failRequest env request attempts pump tx page).pump = pump.discardRest.1 ∧
      (failRequest env request attempts pump tx page).response = none ∧
      (failRequest env request attempts pump tx page).recordedC2s = none := by
  unfold failRequest
  cases discarded : pump.discardRest with
  | mk stop synced =>
    simp only
    split
    · exact ⟨rfl, rfl, rfl, rfl⟩
    · split
      · exact ⟨rfl, rfl, rfl, rfl⟩
      · exact ⟨rfl, rfl, rfl, rfl⟩

/-- A run that panics or does not end has written the whole request, and hangs in
the loop or in the relay. -/
theorem request_written_of_stuck {env : WorkerEnv}
    (stuck : ∀ run, runUpstreamRequest env request tx ≠ .ret run) :
    WritesWhole env request tx ∨ ∃ attempts pump response attempt,
      deliver env request tx (maxDeliveryAttempts - 1) 0 { rx := request.chunks } [] =
        .ret (attempts, pump, .ok response) ∧ attempts.getLast? = some attempt ∧
        attempt.wire = request.upstream.head ++ request.chunks.flatten := by
  by_cases returns : ∃ result, deliver env request tx (maxDeliveryAttempts - 1) 0
      { rx := request.chunks } [] = .ret result
  · obtain ⟨⟨attempts, pump, result⟩, delivered⟩ := returns
    obtain ⟨_, _, whole⟩ := deliver_spec .initial rfl delivered
    unfold runUpstreamRequest at stuck
    rw [delivered, bind_ret] at stuck
    cases result with
    | error page => exact absurd rfl (stuck _)
    | ok response =>
      obtain ⟨attempt, last, wire⟩ := (whole response rfl).2
      exact .inr ⟨attempts, pump, response, attempt, delivered, last, wire⟩
  · exact .inl (deliver_stuck .first fun result same => returns ⟨result, same⟩)

/-- Exactly-once delivery: see the five parts. -/
theorem body_delivered_exactly_once {env : WorkerEnv} {run : WorkerRun}
    (done : runUpstreamRequest env request tx = .ret run) :
    -- every connection receives a beginning of the request
    (∀ attempt ∈ run.attempts, attempt.wire <+: request.upstream.head ++ request.chunks.flatten) ∧
      -- the connection whose response is used receives all of it
      (run.response.isSome → ∃ attempt, run.attempts.getLast? = some attempt ∧
        attempt.wire = request.upstream.head ++ request.chunks.flatten) ∧
      run.attempts.length ≤ 2 ∧
      -- an attempt starts only with everything taken in the replay buffer,
      -- which is lost exactly when more than the window was taken
      (∀ attempt ∈ run.attempts, ∃ taken later,
        request.chunks = taken ++ attempt.start.rx ∧ attempt.start.replay = some taken.flatten ∧
          request.chunks = (taken ++ later) ++ attempt.stop.rx ∧
          (attempt.stop.replay = none ↔ 65536 < (taken ++ later).flatten.length)) ∧
      -- what was taken is counted once
      (∃ taken, request.chunks = taken ++ run.pump.rx ∧ run.pump.total = taken.flatten.length ∧
          ∀ count, run.recordedC2s = some count →
            count = taken.flatten.length ∧ run.pump.rx = []) := by
  unfold runUpstreamRequest at done
  rw [bind_eq_ret_iff] at done
  obtain ⟨⟨attempts, pump, result⟩, delivered, finished⟩ := done
  obtain ⟨spec, lengths, whole⟩ := deliver_spec .initial rfl delivered
  obtain ⟨taken, tracks⟩ := spec.tracks
  have wires : ∀ attempt ∈ attempts, attempt.wire <+:
      request.upstream.head ++ request.chunks.flatten := by
    intro attempt member
    obtain ⟨_, _, made⟩ := spec.made attempt member
    exact made.wire
  have short : attempts.length ≤ 2 := by
    simpa [maxDeliveryAttempts] using lengths
  have replays : ∀ attempt ∈ attempts, ∃ taken later,
      request.chunks = taken ++ attempt.start.rx ∧ attempt.start.replay = some taken.flatten ∧
        request.chunks = (taken ++ later) ++ attempt.stop.rx ∧
        (attempt.stop.replay = none ↔ 65536 < (taken ++ later).flatten.length) := by
    intro attempt member
    obtain ⟨taken, _, made⟩ := spec.made attempt member
    obtain ⟨later, stopped⟩ := made.stopped
    refine ⟨taken, later, made.started.split, ?_, stopped.split, ?_⟩
    · rw [made.started.replay, if_pos (made.started.isReplayable_iff.mp made.replayable)]
    · rw [stopped.replay]
      split
      · next inside =>
          constructor
          · intro none
            contradiction
          · intro outside
            exact (Nat.not_lt.mpr inside outside).elim
      · next outside =>
          exact ⟨fun _ => Nat.lt_of_not_le outside, fun _ => rfl⟩
  cases result with
  | error page =>
    cases finished
    obtain ⟨sameAttempts, samePump, noResponse, noRecord⟩ :=
      @failRequest_keeps request tx env attempts pump page
    rw [sameAttempts, samePump, noResponse, noRecord]
    obtain ⟨discarded, split, total⟩ := tracks.discardRest (Prod.eta pump.discardRest).symm
    exact ⟨wires, by simp, short, replays, discarded, split, total,
      by simp⟩
  | ok response =>
    obtain ⟨sameAttempts, samePump, _, recorded⟩ := relayResponse_keeps finished
    obtain ⟨empty, attempt, last, wire⟩ := whole response rfl
    rw [sameAttempts, samePump, recorded]
    refine ⟨wires, fun _ => ⟨attempt, last, wire⟩, short, replays,
      taken, tracks.split, tracks.total, ?_⟩
    intro count equality
    cases equality
    exact ⟨tracks.total, empty⟩

end

/-! ## A stale connection -/

section

attribute [local instance] linearSearch asciiCase barePlatform

def uploadEndpoint : HttpEndpointInfo :=
  { hostEndpoint := { src := "80".toList, port := some 80, index := none }
    listenEndpointType := .http1 }

def uploadTarget : MyReverseProxyRemoteEndpoint :=
  .direct { text := "http://upstream".toList, httpPathAndQuery := none }

/-- An upload in two chunks. -/
def upload : WorkerRequest :=
  { upstream :=
      { proxyPassTo := .http1 uploadTarget
        endPointInfo := uploadEndpoint
        connectionInfo :=
          { cnUserName := none
            connectionIp := none
            endpointInfo := some uploadEndpoint
            listenConfig := { endpoints := [uploadEndpoint], listenEndpointType := .http1 } }
        location := { path := ['/'], proxyPassTo := .http1 uploadTarget }
        identity := none
        head := ascii "POST / HTTP/1.1\r\nContent-Length: 4\r\n\r\n" }
    chunks := [ascii "ab", ascii "cd"] }

def emptyAnswer : List ReadEvent := [.data (ascii "HTTP/1.1 200 OK\r\nContent-Length: 0\r\n\r\n")]

/-- The first connection was kept by the pool and has been closed by the
upstream; the second one answers. -/
def staleThenFresh : WorkerEnv :=
  { acquire := fun
      | 0 => .ok { reused := true }
      | _ => .ok { reused := false, response := emptyAnswer } }

theorem body_delivered_exactly_once_stale :
    ∃ run, runUpstreamRequest staleThenFresh upload { accepts := 9 } = .ret run ∧
      run.attempts.length = 2 ∧ run.response.isSome ∧
        ∃ attempt, run.attempts.getLast? = some attempt ∧
          attempt.wire = upload.upstream.head ++ upload.chunks.flatten := by
  have evaluated : (runUpstreamRequest staleThenFresh upload { accepts := 9 } >>= fun run =>
        .ret (run.attempts.length, run.response.isSome)) =
      .ret (2, true) := by
    decide +kernel
  rw [bind_eq_ret_iff] at evaluated
  obtain ⟨run, done, view⟩ := evaluated
  have both : run.attempts.length = 2 ∧ run.response.isSome = true := by
    simpa using view
  exact ⟨run, done, both.1, both.2, (body_delivered_exactly_once done).2.1 both.2⟩

end

end ReverseProxy
