import ReverseProxy.H1ProxyServer.Pipeline.Delivery

/-!
# When a request is sent a second time

The rule in front of `run_upstream_request` allows a replay only after a
failure, other than a timeout, on a connection that the pool had kept.  The
two sites that see a write fail look at neither.
-/

namespace ReverseProxy

open RequestBodyPump Outcome

/-! ## The first write that fails -/

/-- The first failure among the next `count` writes, with the number of writes
before it. -/
def firstFailure : Nat → List WriteOutcome → Option (Nat × NetworkError)
  | 0, _ => none
  | _ + 1, [] => none
  | count + 1, .succeeds :: writes =>
    (firstFailure count writes).map fun failure =>
      (failure.1 + 1, failure.2)
  | _ + 1, .fails _ err :: _ => some (0, err)

/-- The first write of head and chunks that fails on a connection; the number
is that of the chunks taken off the reader by then. -/
def UpstreamConnection.writeFailure (upstream : UpstreamConnection)
    (chunks : List Bytes) : Option (Nat × NetworkError) :=
  if upstream.disconnected then some (0, .disconnected)
  else firstFailure (chunks.length + 1) upstream.writes

namespace UpstreamConnection

variable {connection : UpstreamConnection}

variable {count : Nat}

theorem write_of_none (buffer : Bytes)
    (none : firstFailure (count + 1) connection.writes = none) :
    ∃ next, connection.write buffer = (next, .ok ()) ∧ firstFailure count next.writes = .none := by
  unfold write
  cases writes : connection.writes with
  | nil =>
    refine ⟨_, rfl, ?_⟩
    cases count with
    | zero => rfl
    | succ count => rfl
  | cons outcome others =>
    rw [writes] at none
    cases outcome with
    | succeeds => exact ⟨_, rfl, by simpa [firstFailure] using none⟩
    | fails length err => simp [firstFailure] at none

theorem write_of_zero {err : NetworkError} (buffer : Bytes)
    (failure : firstFailure (count + 1) connection.writes = some (0, err)) :
    ∃ next, connection.write buffer = (next, .error err) := by
  unfold write
  cases writes : connection.writes with
  | nil => simp [writes, firstFailure] at failure
  | cons outcome others =>
    rw [writes] at failure
    cases outcome with
    | succeeds => simp [firstFailure] at failure
    | fails length cause =>
      have same : cause = err := by simpa [firstFailure] using failure
      exact ⟨_, by rw [same]⟩

theorem write_of_succ {before : Nat} {err : NetworkError} (buffer : Bytes)
    (failure : firstFailure (count + 1) connection.writes = some (before + 1, err)) :
    ∃ next, connection.write buffer = (next, .ok ()) ∧
      firstFailure count next.writes = some (before, err) := by
  unfold write
  cases writes : connection.writes with
  | nil => simp [writes, firstFailure] at failure
  | cons outcome others =>
    rw [writes] at failure
    cases outcome with
    | succeeds =>
      simp only [firstFailure, Option.map_eq_some_iff] at failure
      obtain ⟨⟨earlier, cause⟩, later, same⟩ := failure
      cases same
      exact ⟨_, rfl, later⟩
    | fails length cause => simp [firstFailure] at failure

end UpstreamConnection

theorem streamChunks_ok {rx : List Bytes} {pump : RequestBodyPump} {upstream : UpstreamConnection}
    (none : firstFailure rx.length upstream.writes = none) :
    ∃ stop connection, streamChunks rx pump upstream = (stop, connection, .ok ()) := by
  induction rx generalizing pump upstream with
  | nil => exact ⟨pump.complete, upstream, rfl⟩
  | cons chunk rx ih =>
    obtain ⟨next, written, others⟩ := UpstreamConnection.write_of_none chunk none
    rw [streamChunks, written]
    exact ih others

theorem streamChunks_error {chunks rx taken : List Bytes}
    {pump : RequestBodyPump} {upstream : UpstreamConnection} {before : Nat}
    {err : NetworkError} (tracks : Tracks chunks pump taken)
    (waiting : pump.rx = rx)
    (failure : firstFailure rx.length upstream.writes = some (before, err)) :
    ∃ stop connection,
      streamChunks rx pump upstream = (stop, connection, .error err) ∧
        Tracks chunks stop (taken ++ rx.take (before + 1)) := by
  induction rx generalizing pump upstream taken before with
  | nil => simp [firstFailure] at failure
  | cons chunk rx ih =>
    have taking := tracks.takeChunk waiting
    rw [streamChunks]
    cases before with
    | zero =>
      obtain ⟨next, written⟩ := UpstreamConnection.write_of_zero chunk failure
      rw [written]
      exact ⟨_, _, rfl, by simpa using taking⟩
    | succ before =>
      obtain ⟨next, written, others⟩ := UpstreamConnection.write_of_succ chunk failure
      obtain ⟨stop, connection, streamed, tracking⟩ := ih taking rfl others
      rw [written]
      exact ⟨stop, connection, streamed, by simpa using tracking⟩

/-- The error of a write that ended an attempt. -/
def AttemptEnd.writeError : AttemptEnd → Option NetworkError
  | headFailed err => some err
  | bodyFailed err => some err
  | _ => none

theorem sendRequest_first (head : Bytes) (upstream : UpstreamConnection) (chunks : List Bytes) :
    (∃ before err ended stop connection,
      upstream.writeFailure chunks = some (before, err) ∧
        sendRequest head upstream { rx := chunks } = (stop, connection, .error ended) ∧
        ended.writeError = some err ∧ Tracks chunks stop (chunks.take before)) ∨
      (upstream.writeFailure chunks = none ∧ ∃ stop connection,
        sendRequest head upstream { rx := chunks } = (stop, connection, .ok ())) := by
  have initial := tracks_initial chunks
  unfold sendRequest UpstreamConnection.sendHeadBytes UpstreamConnection.writeFailure
  by_cases gone : upstream.disconnected = true
  · exact Or.inl ⟨0, .disconnected, .headFailed .disconnected,
      { rx := chunks }, upstream, by simp [gone], by simp [gone], rfl, initial⟩
  simp only [gone, Bool.false_eq_true, if_false]
  cases failure : firstFailure (chunks.length + 1) upstream.writes with
  | none =>
    obtain ⟨next, written, others⟩ := UpstreamConnection.write_of_none head failure
    obtain ⟨stop, connection, streamed⟩ := @streamChunks_ok chunks { rx := chunks } next others
    refine Or.inr ⟨rfl, stop, connection, ?_⟩
    simp [written, resend, stream, streamed]
  | some found =>
    obtain ⟨before, err⟩ := found
    refine Or.inl ⟨before, err, ?_⟩
    cases before with
    | zero =>
      obtain ⟨next, written⟩ := UpstreamConnection.write_of_zero head failure
      exact ⟨.headFailed err, { rx := chunks }, next, rfl,
        by simp [written], rfl, initial⟩
    | succ before =>
      obtain ⟨next, written, others⟩ := UpstreamConnection.write_of_succ head failure
      obtain ⟨stop, connection, streamed, tracking⟩ := streamChunks_error initial rfl others
      exact ⟨.bodyFailed err, stop, connection, rfl,
        by simp [written, resend, stream, streamed], rfl, tracking⟩

/-! ## The attempts of a request -/

section

variable [SliceOfU8Ext] [StrUtils] [Platform] {env : WorkerEnv}
  {request : WorkerRequest} {tx : ResponseSender}

variable {response : Option UpstreamResponse}

variable {ended : AttemptEnd}

theorem readResponseHead_ended {events : List ReadEvent}
    (read : readResponseHead request events = .ret (ended, response)) :
    ended.writeError = none ∧ (response.isSome → ended = .responded) := by
  unfold readResponseHead at read
  simp only [bind_eq_ret_iff] at read
  obtain ⟨⟨reader, result⟩, _, parsed⟩ := read
  cases result with
  | error err =>
    cases parsed
    exact ⟨rfl, by simp⟩
  | ok headers =>
    simp only [bind_eq_ret_iff] at parsed
    obtain ⟨data, _, compiled, _, finished⟩ := parsed
    cases compiled with
    | error err =>
      cases finished
      exact ⟨rfl, by simp⟩
    | ok compiled =>
      cases finished
      exact ⟨rfl, fun _ => rfl⟩

variable {upstream : UpstreamConnection} {pump : RequestBodyPump}

theorem runAttempt_records {attempt : Attempt}
    (ran : runAttempt request tx upstream pump = .ret (attempt, response)) :
    attempt.reused = upstream.reused ∧ attempt.handed = tx.sent ∧
      (response.isSome → attempt.ended = .responded) := by
  unfold runAttempt at ran
  split at ran
  · cases ran
    exact ⟨rfl, rfl, by simp⟩
  rw [bind_eq_ret_iff] at ran
  obtain ⟨⟨ended, found⟩, read, made⟩ := ran
  cases made
  exact ⟨rfl, rfl, (readResponseHead_ended read).2⟩

theorem runAttempt_first {attempt : Attempt}
    (ran : runAttempt request tx { upstream with wire := [] }
      { rx := request.chunks } = .ret (attempt, response)) :
    (∃ before err,
      upstream.writeFailure request.chunks = some (before, err) ∧
        response = none ∧ attempt.ended.writeError = some err ∧ (attempt.stop.isReplayable = true ↔
            (request.chunks.take before).flatten.length ≤ replayWindow)) ∨
      (upstream.writeFailure request.chunks = none ∧ attempt.ended.writeError = none) := by
  unfold runAttempt at ran
  rcases sendRequest_first request.upstream.head { upstream with wire := [] } request.chunks with
    ⟨before, err, ended, stop, connection, failure, sent, writeError, tracks⟩ |
    ⟨none, stop, connection, sent⟩
  · rw [sent] at ran
    cases ran
    exact Or.inl ⟨before, err, failure, rfl, writeError, tracks.isReplayable_iff⟩
  rw [sent] at ran
  simp only [bind_eq_ret_iff] at ran
  obtain ⟨⟨ended, found⟩, read, made⟩ := ran
  cases made
  exact Or.inr ⟨none, (readResponseHead_ended read).1⟩

/-! ## The replay rule -/

omit [SliceOfU8Ext] [StrUtils] [Platform] in
theorem AttemptEnd.replays_of_writeError
    {err : NetworkError} {pump : RequestBodyPump} (reused : Bool)
    (failed : ended.writeError = some err) :
    ended.replays true reused pump = pump.isReplayable := by
  cases ended with
  | headFailed cause | bodyFailed cause => simp [AttemptEnd.replays]
  | responseFailed cause | compileFailed cause | responded => simp [AttemptEnd.writeError] at failed

/-- An attempt that ended with a timeout. -/
def AttemptEnd.timedOut : AttemptEnd → Bool
  | headFailed err => err.isTimeout
  | bodyFailed err => err.isTimeout
  | responseFailed (.networkError err) => err.isTimeout
  | _ => false

omit [SliceOfU8Ext] [StrUtils] [Platform] in
theorem AttemptEnd.timedOut_of_writeError
    {err : NetworkError} (failed : ended.writeError = some err) :
    ended.timedOut = err.isTimeout := by
  cases ended with
  | headFailed cause | bodyFailed cause =>
    cases failed
    rfl
  | responseFailed cause | compileFailed cause | responded => simp [AttemptEnd.writeError] at failed

omit [SliceOfU8Ext] [StrUtils] [Platform] in
/-- The third site follows the rule. -/
theorem AttemptEnd.stale_of_replays {reused : Bool} (noWrite : ended.writeError = none)
    (replays : ended.replays true reused pump = true) :
    reused = true ∧ ended.timedOut = false := by
  cases ended with
  | headFailed cause | bodyFailed cause => simp [AttemptEnd.writeError] at noWrite
  | responseFailed cause =>
    cases cause with
    | networkError err =>
      simp only [AttemptEnd.replays, isStaleConnection,
        Bool.and_eq_true, Bool.not_eq_true'] at replays
      exact ⟨replays.1.1.1, replays.2⟩
    | _ => simp [AttemptEnd.replays, isStaleConnection] at replays
  | compileFailed cause | responded => simp [AttemptEnd.replays] at replays

/-- The rule written in front of `run_upstream_request`. -/
structure ReplayRule (env : WorkerEnv) (request : WorkerRequest)
    (tx : ResponseSender) (run : WorkerRun) : Prop where
  /-- A request is sent again only after a failure, other than a timeout, of a
  reused connection, with nothing handed to the client since it arrived. -/
  replayed : ∀ first second others, run.attempts = first :: second :: others →
    first.reused = true ∧ first.ended.timedOut = false ∧ second.handed = tx.sent
  /-- Any other failure ends with the error answer. -/
  answered : ∀ attempt ∈ run.attempts, attempt.ended ≠ .responded →
    (attempt.reused = false ∨ attempt.ended.timedOut = true) →
      ∃ pump page, run = failRequest env request run.attempts pump tx page

omit [SliceOfU8Ext] [StrUtils] [Platform] in
theorem ReplayRule.first_stale {run : WorkerRun} {first second : Bool × Bool}
    (rule : ReplayRule env request tx run)
    (twice : (run.attempts.map fun attempt =>
      (attempt.reused, attempt.ended.timedOut)) = [first, second]) :
    first = (true, false) := by
  obtain ⟨one, others, listed, rfl, rest⟩ := List.map_eq_cons_iff.mp twice
  obtain ⟨two, more, relisted, _, _⟩ := List.map_eq_cons_iff.mp rest
  rw [relisted] at listed
  obtain ⟨kept, inTime, _⟩ := rule.replayed one two more listed
  rw [kept, inTime]

/-- The first connection is fresh or times out at a write that fails inside
the replay window, and the pool hands out a second one. -/
def WriteFailsUnreplayably (env : WorkerEnv) (request : WorkerRequest) : Prop :=
  ∃ upstream next before err, env.acquire 0 = .ok upstream ∧ env.acquire 1 = .ok next ∧
    upstream.writeFailure request.chunks = some (before, err) ∧
    (upstream.reused = false ∨ err.isTimeout = true) ∧
    (request.chunks.take before).flatten.length ≤ 65536

/-- The shapes a delivery can take: nothing sent, one attempt that is not
followed by another, or two. -/
theorem deliver_attempts {attempts : List Attempt} {result : Except ErrorTemplate UpstreamResponse}
    (delivered : deliver env request tx (maxDeliveryAttempts - 1) 0
      { rx := request.chunks } [] = .ret (attempts, pump, result)) :
    (∃ err, env.acquire 0 = .error err ∧ attempts = []) ∨
      ∃ upstream first response, env.acquire 0 = .ok upstream ∧
        runAttempt request tx { upstream with wire := [] }
          { rx := request.chunks } = .ret (first, response) ∧
        ((attempts = [first] ∧ (response = none → ∃ page, result = .error page) ∧ (response.isSome ∨
              first.ended.replays true first.reused first.stop = false ∨
              ∃ err, env.acquire 1 = .error err)) ∨
          ∃ next second answer, env.acquire 1 = .ok next ∧
            first.ended.replays true first.reused first.stop = true ∧
            runAttempt request tx { next with wire := [] } first.stop = .ret (second, answer) ∧
            attempts = [first, second] ∧
            (answer = none → ∃ page, result = .error page)) := by
  rcases deliver_cases delivered with ⟨err, refused, rfl, _, _⟩ |
    ⟨upstream, first, response, acquired, ran, ended⟩
  · exact Or.inl ⟨err, refused, rfl⟩
  refine Or.inr ⟨upstream, first, response, acquired, ran, ?_⟩
  rcases ended with ⟨rfl, _, rfl, last⟩ | ⟨fewer, retries, _, replays, again⟩
  · refine Or.inl ⟨rfl, ?_, ?_⟩
    · rintro rfl
      exact ⟨_, rfl⟩
    · rcases last with some | none | gives
      · exact Or.inl some
      · simp [maxDeliveryAttempts] at none
      · exact Or.inr (Or.inl gives)
  · have exhausted : fewer = 0 := by
      simp only [maxDeliveryAttempts] at retries
      omega
    rcases deliver_cases again with ⟨err, refused, rfl, _, rfl⟩ |
      ⟨next, second, answer, reacquired, reran, ended⟩
    · exact Or.inl ⟨rfl, fun _ => ⟨_, rfl⟩, Or.inr (Or.inr ⟨err, refused⟩)⟩
    rcases ended with ⟨rfl, _, rfl, _⟩ | ⟨fewest, more, _⟩
    · refine Or.inr ⟨next, second, answer, reacquired, replays, reran, rfl, ?_⟩
      rintro rfl
      exact ⟨_, rfl⟩
    · omega

/-- A request that was sent only once met no write failure that would have
been replayed. -/
theorem not_unreplayable_of_once {first : Attempt} (acquired : env.acquire 0 = .ok upstream)
    (ran : runAttempt request tx { upstream with wire := [] }
      { rx := request.chunks } = .ret (first, response))
    (once : response.isSome ∨
      first.ended.replays true first.reused first.stop = false ∨
        ∃ err, env.acquire 1 = .error err) :
    ¬ WriteFailsUnreplayably env request := by
  rintro ⟨other, next, before, err, same, reacquired, failure, _, fits⟩
  cases acquired.symm.trans same
  rcases runAttempt_first ran with
    ⟨before', err', failure', unanswered, wrote, replayable⟩ | ⟨noFailure, _⟩
  · cases failure.symm.trans failure'
    rcases once with some | gives | ⟨err, refused⟩
    · simp [unanswered] at some
    · rw [AttemptEnd.replays_of_writeError _ wrote, replayable.mpr fits] at gives
      cases gives
    · rw [refused] at reacquired
      cases reacquired
  · rw [noFailure] at failure
    cases failure

theorem stale_iff_of_twice {next : UpstreamConnection} {first : Attempt}
    (acquired : env.acquire 0 = .ok upstream)
    (ran : runAttempt request tx { upstream with wire := [] }
      { rx := request.chunks } = .ret (first, response))
    (replays : first.ended.replays true first.reused first.stop = true)
    (reacquired : env.acquire 1 = .ok next) :
    (first.reused = true ∧ first.ended.timedOut = false) ↔
      ¬ WriteFailsUnreplayably env request := by
  have reused : first.reused = upstream.reused := (runAttempt_records ran).1
  rcases runAttempt_first ran with
    ⟨before, err, failure, _, wrote, replayable⟩ | ⟨noFailure, noWrite⟩
  · rw [AttemptEnd.replays_of_writeError _ wrote] at replays
    rw [AttemptEnd.timedOut_of_writeError wrote, reused]
    constructor
    · rintro ⟨kept, inTime⟩ ⟨other, _, _, _, same, _, failure', wrong, _⟩
      cases acquired.symm.trans same
      cases failure.symm.trans failure'
      simp [kept, inTime] at wrong
    · intro writes
      by_contra notStale
      refine writes ⟨upstream, next, before, err, acquired, reacquired,
        failure, ?_, replayable.mp replays⟩
      by_cases kept : upstream.reused = true
      · right
        by_contra inTime
        exact notStale ⟨kept, by simpa using inTime⟩
      · exact Or.inl (by simpa using kept)
  · -- the site behind the writes follows the rule
    refine iff_of_true (AttemptEnd.stale_of_replays noWrite replays) ?_
    rintro ⟨other, _, _, _, same, _, failure, _⟩
    cases acquired.symm.trans same
    rw [noFailure] at failure
    cases failure

/-- A run follows the rule exactly when no write fails in a way that the two
write sites do not tell from a stale connection. -/
theorem replayRule_iff_writes {run : WorkerRun}
    (done : runUpstreamRequest env request tx = .ret run) :
    ReplayRule env request tx run ↔ ¬ WriteFailsUnreplayably env request := by
  unfold runUpstreamRequest at done
  rw [bind_eq_ret_iff] at done
  obtain ⟨⟨attempts, pump, result⟩, delivered, finished⟩ := done
  have sameAttempts : run.attempts = attempts := by
    cases result with
    | error page =>
      cases finished
      exact (@failRequest_keeps request tx env attempts pump page).1
    | ok response => exact (relayResponse_keeps finished).1
  have fails : (∃ page, result = .error page) →
      ∃ pump page, run = failRequest env request attempts pump tx page := by
    rintro ⟨page, rfl⟩
    cases finished
    exact ⟨pump, page, rfl⟩
  rcases deliver_attempts delivered with ⟨err, refused, rfl⟩ |
    ⟨upstream, first, response, acquired, ran, rest⟩
  · -- no connection at all
    refine iff_of_true ?_ ?_
    · exact
        { replayed := by simp [sameAttempts]
          answered := by simp [sameAttempts] }
    · rintro ⟨upstream, next, before, err, acquired, _⟩
      rw [refused] at acquired
      cases acquired
  rcases rest with ⟨rfl, failed, once⟩ |
    ⟨next, second, answer, reacquired, replays, reran, rfl, failed⟩
  · -- a single attempt
    refine iff_of_true ?_ (not_unreplayable_of_once acquired ran once)
    refine { replayed := by simp [sameAttempts], answered := ?_ }
    rw [sameAttempts]
    intro attempt member notResponded _
    cases List.mem_singleton.mp member
    apply fails
    apply failed
    by_contra some
    exact notResponded ((runAttempt_records ran).2.2 (Option.isSome_iff_ne_none.mpr some))
  · -- two attempts: the rule is about the first of them
    rw [← stale_iff_of_twice acquired ran replays reacquired]
    obtain ⟨_, handed, responded⟩ := runAttempt_records reran
    constructor
    · intro rule
      obtain ⟨kept, inTime, _⟩ := rule.replayed first second [] sameAttempts
      exact ⟨kept, inTime⟩
    · rintro ⟨kept, inTime⟩
      refine { replayed := ?_, answered := ?_ }
      · intro one two others listed
        rw [sameAttempts] at listed
        cases listed
        exact ⟨kept, inTime, handed⟩
      · rw [sameAttempts]
        intro attempt member notResponded wrong
        rcases List.mem_pair.mp member with rfl | rfl
        · simp [kept, inTime] at wrong
        apply fails
        apply failed
        by_contra some
        exact notResponded (responded (Option.isSome_iff_ne_none.mpr some))

end

/-! ## Write failures that are replayed -/

section

attribute [local instance] linearSearch asciiCase barePlatform

/-- The first connection is `first`; the pool then dials one that answers. -/
def firstThenFresh (first : UpstreamConnection) : WorkerEnv :=
  { acquire := fun
      | 0 => .ok first
      | _ => .ok { reused := false, response := emptyAnswer } }

/-- A freshly dialled upstream that does not take the head. -/
def brokenUpstream : UpstreamConnection := { reused := false, writes := [.fails 0 .disconnected] }

/-- A kept connection on which writing the second chunk times out. -/
def slowUpstream : UpstreamConnection :=
  { reused := true, writes := [.succeeds, .succeeds, .fails 1 (.timeout 30)] }

/-- A kept connection that the upstream has closed. -/
def closedUpstream : UpstreamConnection := { reused := true, writes := [.fails 0 .disconnected] }

theorem replayRule_iff_writes_closedUpstream :
    ∃ run, runUpstreamRequest (firstThenFresh closedUpstream) upload { accepts := 9 } = .ret run ∧
      run.attempts.length = 2 ∧ ReplayRule (firstThenFresh closedUpstream) upload { accepts := 9 }
          run := by
  have evaluated : (runUpstreamRequest (firstThenFresh closedUpstream) upload
      { accepts := 9 } >>= fun run => .ret run.attempts.length) = .ret 2 := by
    decide +kernel
  rw [bind_eq_ret_iff] at evaluated
  obtain ⟨run, done, length⟩ := evaluated
  refine ⟨run, done, by simpa using length, (replayRule_iff_writes done).mpr ?_⟩
  rintro ⟨upstream, next, before, err, acquired, _, failure, wrong, _⟩
  cases acquired
  cases failure
  simp [closedUpstream, NetworkError.isTimeout] at wrong

/-- Both a fresh connection and a timeout are replayed when a write fails. -/
theorem write_failures_break_replayRule :
    (∃ run, runUpstreamRequest (firstThenFresh brokenUpstream) upload { accepts := 9 } = .ret run ∧
      ¬ ReplayRule (firstThenFresh brokenUpstream) upload { accepts := 9 } run) ∧
      ∃ run, runUpstreamRequest (firstThenFresh slowUpstream) upload { accepts := 9 } = .ret run ∧
        ¬ ReplayRule (firstThenFresh slowUpstream) upload { accepts := 9 }
          run := by
  have broken : (runUpstreamRequest (firstThenFresh brokenUpstream) upload
      { accepts := 9 } >>= fun run =>
        .ret (run.attempts.map fun attempt =>
          (attempt.reused, attempt.ended.timedOut))) =
      .ret [(false, false), (false, false)] := by
    decide +kernel
  have slow : (runUpstreamRequest (firstThenFresh slowUpstream) upload
      { accepts := 9 } >>= fun run =>
        .ret (run.attempts.map fun attempt =>
          (attempt.reused, attempt.ended.timedOut))) =
      .ret [(true, true), (false, false)] := by
    decide +kernel
  rw [bind_eq_ret_iff] at broken slow
  obtain ⟨first, firstDone, firstView⟩ := broken
  obtain ⟨other, otherDone, otherView⟩ := slow
  refine ⟨⟨first, firstDone, ?_⟩, ⟨other, otherDone, ?_⟩⟩
  · intro rule
    cases rule.first_stale (ret.inj firstView)
  · intro rule
    cases rule.first_stale (ret.inj otherView)

end

end ReverseProxy
