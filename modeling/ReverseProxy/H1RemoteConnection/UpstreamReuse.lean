import ReverseProxy.H1RemoteConnection.ConnectionPlaces

/-!
# Reuse of upstream connections

In every run a connection is in one place, and a worker that was handed a used
one continues behind a complete response for the same upstream.  For this the
responses have to end where their last framing line says and the keys have to
tell the settings apart.
-/

namespace ReverseProxy

open Library Rfc7230 Http1Headers Function MessageHead PoolStep Exchange Outcome ResponseSender List

/-! ## Complete responses -/

/-- The response is final and by RFC 7230 delimits itself with this length. -/
def SelfDelimited (method : Bytes) (head : MessageHead) (length : BodyLength) : Prop :=
  ∃ status, statusCode head.firstLine = some status ∧ 200 ≤ status ∧ responseBody method status
        (fieldValues transferEncodingHeader head.lines)
        (fieldValues contentLenHeader head.lines) = some (.body length)

/-- The bytes taken from the connection are one complete response that
delimits itself, and none behind it was taken. -/
def Exchange.CompletelyRead (exchange : Exchange) : Prop :=
  ∃ (head : MessageHead) (body : Bytes) (length : BodyLength), unread exchange.events =
        head.bytes ++ body ++ unread exchange.left.events ∧
      exchange.left.buffer.contents = [] ∧
        SelfDelimited exchange.method head length ∧ MessageBody length body

/-- The stream starts with a complete response that delimits itself, and the
last line that frames it describes the body that it has. -/
def EndsAsRecorded [StrUtils] (method stream : Bytes) : Prop :=
  ∃ (head : MessageHead) (body rest : Bytes) (length : BodyLength) (recorded : HttpContentLength),
    stream = head.bytes ++ body ++ rest ∧ SelfDelimited method head length ∧
      MessageBody length body ∧ LastFraming head.lines recorded ∧
        TakesBody recorded (body ++ rest) body rest

/-- A response whose last framing line gives it an end ends there. -/
def KeepsRecordedEnd [StrUtils] (method stream : Bytes) : Prop :=
  ∀ (head : MessageHead) (rest : Bytes) (recorded : HttpContentLength),
    stream = head.bytes ++ rest → LastFraming head.lines recorded →
      recorded ≠ .none → EndsAsRecorded method stream

theorem isReusable_eq_true {contentLength : HttpContentLength}
    {left : H1Reader} {disconnected : Bool}
    (reusable : isReusable contentLength left disconnected = true) :
    contentLength ≠ .none ∧ left.buffer.contents = [] := by
  unfold isReusable at reusable
  simp only [Bool.and_eq_true, List.isEmpty_iff] at reusable
  obtain ⟨⟨delimited, nothingLeft⟩, _⟩ := reusable
  refine ⟨?_, nothingLeft⟩
  rintro rfl
  cases delimited

section

variable [SliceOfU8Ext] [StrUtils] [Platform]

theorem completelyRead_of_relayed {request : WorkerRequest}
    {events : List ReadEvent} {response : UpstreamResponse}
    {tx sent : ResponseSender} {left : H1Reader} {count : Nat}
    (ends : KeepsRecordedEnd (requestMethod request.upstream.head) (unread events))
    (read : readResponseHead request events = .ret (.responded, some response))
    (relayed : response.reader.transferBody tx response.contentLength =
      .ret (left, sent, .ok count))
    (framed : response.contentLength ≠ .none)
    (nothingLeft : left.buffer.contents = []) :
    CompletelyRead { method := requestMethod request.upstream.head, events, left } := by
  obtain ⟨head, buffered, headers, wf, stream, facts, recorded, _⟩ := readResponseHead_some read
  obtain ⟨body, consumed, takes⟩ := transferBody_ok
    (show (response.reader.into tx).buffer.Wf from wf)
    (H1Reader.transferBody_eq_ret relayed)
  obtain ⟨other, otherBody, rest, length, framing, otherStream, delimited,
    isBody, last, otherTakes⟩ := ends head _ _ stream (lastFraming_recorded facts.readable)
        (recorded ▸ framed)
  have pending : response.reader.pending = body ++ left.pending := consumed.pending
  rw [otherStream, append_assoc] at stream
  obtain ⟨rfl, rests⟩ := unique stream
  rw [recorded, last.recorded] at takes
  have source : (response.reader.into tx).pending = body ++ left.pending := pending
  rw [source] at takes
  rw [pending] at rests
  rw [rests] at otherTakes
  obtain ⟨rfl, rfl⟩ := TakesBody.unique rests.symm rfl otherTakes takes
  refine ⟨other, otherBody, length, ?_, nothingLeft, delimited, isBody⟩
  rw [otherStream, H1Reader.pending, nothingLeft, nil_append]

end

/-! ## What holds of connections and settings -/

section

variable {ω : Type} [RemoteEndpoints]

/-- The connection has been used for a response that was completely read. -/
def OwnedUpstream.Used (owned : OwnedUpstream) : Prop :=
  ∃ exchange, owned.last = some exchange ∧ exchange.CompletelyRead

def WorkerState.target : WorkerState → Option UpstreamTarget
  | idle => none
  | acquiring target => some target
  | dialling target => some target
  | holding target _ _ => some target

/-- Settings that agree in all a key can tell agree in the scheme too. -/
def SchemesAgree (left right : UpstreamTarget) : Prop :=
  left.identity.keyed = right.identity.keyed → left.identity.scheme = right.identity.scheme

/-- No two settings of the list share a key. -/
structure KeysApart (targets : List UpstreamTarget) : Prop where
  plain : ∀ target ∈ targets, target.identity.Plain
  agree : ∀ left ∈ targets, ∀ right ∈ targets, SchemesAgree left right

theorem KeysApart.identity_eq {targets : List UpstreamTarget}
    (apart : KeysApart targets) {left right : UpstreamTarget}
    (leftIn : left ∈ targets) (rightIn : right ∈ targets)
    (sameKey : connectionKey left = connectionKey right) :
    left.identity = right.identity := by
  have keyed := (connectionKey_eq_iff (apart.plain left leftIn)
    (apart.plain right rightIn)).mp sameKey
  exact UpstreamIdentity.eq_of_keyed keyed (apart.agree left leftIn right rightIn keyed)

/-- What holds of the settings, the idle connections and the workers. -/
structure PoolFacts (state : PoolState ω) : Prop where
  keys : KeysApart state.targets
  bounded : ∀ key, (state.holder.pools key).length ≤ state.holder.maxIdlePerKey
  idle : ∀ key, ∀ owned ∈ state.holder.pools key,
    connectionKey owned.dialled = key ∧ owned.dialled ∈ state.targets ∧ owned.Used
  came : ∀ worker target, (state.workers worker).target = some target → target ∈ state.targets
  held : ∀ worker target owned reused,
    state.workers worker = .holding target owned reused →
      connectionKey owned.dialled = connectionKey target ∧
        owned.dialled ∈ state.targets ∧ (reused = true → owned.Used)

/-- What the pool relies on. -/
structure PoolInvariant (state : PoolState ω) : Prop extends PoolFacts state where
  apart : state.Apart

/-- A connection is with one worker or in the pool once; a used one is handed
out for the same upstream only, behind a complete response; the pool is
bounded; and different upstreams have different keys. -/
structure SafeReuse (state : PoolState ω) : Prop where
  exclusive : Exclusive state.content
  handedOut : ∀ worker target owned,
    state.workers worker = .holding target owned true →
      connectionKey owned.dialled = connectionKey target ∧
        owned.dialled.identity = target.identity ∧
          ∃ exchange, owned.last = some exchange ∧ exchange.CompletelyRead
  bounded : ∀ key, (state.holder.pools key).length ≤ state.holder.maxIdlePerKey
  separate : ∀ left ∈ state.targets, ∀ right ∈ state.targets,
    left.identity ≠ right.identity → connectionKey left ≠ connectionKey right

theorem PoolInvariant.safe {state : PoolState ω}
    (invariant : PoolInvariant state) : SafeReuse state where
  exclusive := invariant.apart.exclusive
  handedOut := by
    intro worker target owned holding
    obtain ⟨sameKey, dialled, used⟩ := invariant.held worker target owned true holding
    have came : target ∈ state.targets := invariant.came worker target (by rw [holding]; rfl)
    exact ⟨sameKey, invariant.keys.identity_eq dialled came sameKey, used rfl⟩
  bounded := invariant.bounded
  separate := fun _ leftIn _ rightIn different sameKey =>
    different (invariant.keys.identity_eq leftIn rightIn sameKey)

theorem PoolInvariant.new (maxIdlePerKey nextId : Nat) :
    PoolInvariant (PoolState.new maxIdlePerKey nextId : PoolState ω) where
  apart := by
    have nothing : ∀ place,
        (PoolState.new maxIdlePerKey nextId : PoolState ω).content place =
          none := by
      intro place
      cases place with
      | worker worker => rfl
      | idle key index => rfl
    constructor
    · intro first second thing inFirst
      rw [nothing] at inFirst
      cases inFirst
    · intro place number inside
      rw [nothing] at inside
      cases inside
  keys := ⟨by simp [PoolState.new], by simp [PoolState.new]⟩
  bounded := fun key => Nat.zero_le _
  idle := by simp [PoolState.new, H1PoolHolder.new]
  came := by simp [PoolState.new, WorkerState.target]
  held := by simp [PoolState.new]

end

/-! ## Every step keeps the invariant -/

section

variable {ω : Type} [RemoteEndpoints] {state : PoolState ω} {target : UpstreamTarget}
  {owned : OwnedUpstream}

theorem PoolFacts.popped (facts : PoolFacts state)
    {key : Str} {holder : H1PoolHolder} (popped : state.holder.popIdle key = some (owned, holder)) :
    PoolFacts { state with holder } ∧
      connectionKey owned.dialled = key ∧ owned.dialled ∈ state.targets ∧
        owned.Used := by
  obtain ⟨idle, whole, rfl⟩ := H1PoolHolder.popIdle_eq_some popped
  have inside : ∀ other ∈ idle ++ [owned],
      connectionKey other.dialled = key ∧ other.dialled ∈ state.targets ∧
        other.Used := by
    rw [← whole]
    exact facts.idle key
  have short : (idle ++ [owned]).length ≤ state.holder.maxIdlePerKey := by
    rw [← whole]
    exact facts.bounded key
  refine ⟨?_, inside owned (by simp)⟩
  refine
    { keys := facts.keys
      bounded := ?_
      idle := ?_
      came := facts.came
      held := facts.held }
  · intro other
    by_cases same : other = key
    · subst same
      simp only [update_self]
      rw [length_append] at short
      omega
    · simpa only [update_of_ne same] using facts.bounded other
  · intro other found member
    by_cases same : other = key
    · subst same
      simp only [update_self] at member
      exact inside found (mem_append_left _ member)
    · simp only [update_of_ne same] at member
      exact facts.idle other found member

theorem PoolFacts.released (facts : PoolFacts state) {kept : OwnedUpstream} (used : kept.Used)
    (sameKey : connectionKey kept.dialled = connectionKey target)
    (dialled : kept.dialled ∈ state.targets) :
    PoolFacts { state with holder := state.holder.release target kept } := by
  unfold H1PoolHolder.release
  split
  · exact facts
  dsimp only
  split
  · next room =>
      refine
        { keys := facts.keys
          bounded := ?_
          idle := ?_
          came := facts.came
          held := facts.held }
      · intro key
        by_cases same : key = connectionKey target
        · subst same
          simp only [update_self, length_append, length_singleton]
          exact room
        · simpa only [update_of_ne same] using facts.bounded key
      · intro key found member
        by_cases same : key = connectionKey target
        · subst same
          simp only [update_self] at member
          rcases mem_append.mp member with old | new
          · exact facts.idle _ found old
          · cases mem_singleton.mp new
            exact ⟨sameKey, dialled, used⟩
        · simp only [update_of_ne same] at member
          exact facts.idle key found member
  · exact facts

theorem KeysApart.cons {targets : List UpstreamTarget} (apart : KeysApart targets)
    (plain : target.identity.Plain)
    (agree : ∀ other ∈ targets, SchemesAgree target other) :
    KeysApart (target :: targets) := by
  refine ⟨forall_mem_cons.mpr ⟨plain, apart.plain⟩, ?_⟩
  intro left leftIn right rightIn
  rcases mem_cons.mp leftIn with rfl | leftOld
  · rcases mem_cons.mp rightIn with rfl | rightOld
    · exact fun _ => rfl
    · exact agree right rightOld
  rcases mem_cons.mp rightIn with rfl | rightOld
  · intro keyed
    exact (agree left leftOld keyed.symm).symm
  · exact apart.agree left leftOld right rightOld

theorem PoolFacts.started (facts : PoolFacts state) (plain : target.identity.Plain)
    (agree : ∀ other ∈ state.targets, SchemesAgree target other) :
    PoolFacts { state with targets := target :: state.targets } where
  keys := facts.keys.cons plain agree
  bounded := facts.bounded
  idle := fun key owned member =>
    have ⟨sameKey, dialled, used⟩ := facts.idle key owned member
    ⟨sameKey, mem_cons_of_mem _ dialled, used⟩
  came := fun worker target found =>
    mem_cons_of_mem _ (facts.came worker target found)
  held := fun worker target owned reused holding =>
    have ⟨sameKey, dialled, used⟩ := facts.held worker target owned reused holding
    ⟨sameKey, mem_cons_of_mem _ dialled, used⟩

variable [DecidableEq ω]

theorem PoolFacts.worker (facts : PoolFacts state)
    (worker : ω) {next : WorkerState}
    (came : ∀ target, next.target = some target → target ∈ state.targets)
    (held : ∀ target owned reused, next = .holding target owned reused →
      connectionKey owned.dialled = connectionKey target ∧
        owned.dialled ∈ state.targets ∧ (reused = true → owned.Used)) :
    PoolFacts
      { state with
        workers := update state.workers worker next } where
  keys := facts.keys
  bounded := facts.bounded
  idle := facts.idle
  came := by
    intro second target found
    by_cases same : second = worker
    · subst same
      exact came target (by simpa using found)
    · exact facts.came second target (by simpa [update_of_ne same] using found)
  held := by
    intro second target owned reused holding
    by_cases same : second = worker
    · subst same
      exact held target owned reused (by simpa using holding)
    · exact facts.held second target owned reused
        (by simpa [update_of_ne same] using holding)

theorem PoolFacts.without (facts : PoolFacts state)
    (worker : ω) {next : WorkerState} (nothing : next.owned = none)
    (came : ∀ target, next.target = some target → target ∈ state.targets) :
    PoolFacts
      { state with
        workers := update state.workers worker next } := by
  refine facts.worker worker came ?_
  rintro target owned reused rfl
  cases nothing

theorem PoolFacts.holds (facts : PoolFacts state)
    (worker : ω)
    {reused : Bool} (came : target ∈ state.targets)
    (sameKey : connectionKey owned.dialled = connectionKey target)
    (dialled : owned.dialled ∈ state.targets)
    (used : reused = true → owned.Used) :
    PoolFacts
      { state with
        workers := update state.workers worker (.holding target owned reused) } := by
  refine facts.worker worker ?_ ?_
  · intro other same
    cases same
    exact came
  · intro other found again same
    cases same
    exact ⟨sameKey, dialled, used⟩

theorem PoolState.Apart.finished (apart : state.Apart)
    {worker : ω} {kept : OwnedUpstream} (holds : (state.workers worker).owned = some owned)
    (sameId : kept.connectionId = owned.connectionId) :
    PoolState.Apart
      { state with
        holder := state.holder.release target kept
        workers := update state.workers worker .idle } := by
  unfold H1PoolHolder.release
  split
  · exact apart.without rfl
  dsimp only
  split
  · exact apart.released holds sameId
  · exact apart.without rfl

end

section

variable {ω : Type} [DecidableEq ω] [SliceOfU8Ext] [StrUtils] [Platform] [RemoteEndpoints]

/-- New settings have no bars and agree in the scheme with earlier ones of the
same upstream; a response ends where its last framing line says. -/
def Reusable (state : PoolState ω) : PoolLabel ω → Prop
  | .start _ target => target.identity.Plain ∧ ∀ other ∈ state.targets, SchemesAgree target other
  | .finish worker request => ∀ target owned reused,
      state.workers worker = .holding target owned reused →
        KeepsRecordedEnd (requestMethod request.upstream.head) (unread owned.response)
  | _ => True

variable {state : PoolState ω}

theorem PoolInvariant.step {next : PoolState ω} {label : PoolLabel ω}
    (invariant : PoolInvariant state) (meets : Reusable state label)
    (stepped : PoolStep state label next) : PoolInvariant next := by
  have facts := invariant.toPoolFacts
  have apart := invariant.apart
  cases stepped with
  | @start worker target idle =>
    have started := facts.started meets.1 meets.2
    refine ⟨started.without worker rfl ?_, apart.without rfl⟩
    intro other same
    cases same
    exact mem_cons_self
  | skip acquiring popped dead =>
    exact ⟨(facts.popped popped).1, apart.popped popped⟩
  | @reuse worker target owned holder acquiring popped live =>
    obtain ⟨rest, sameKey, dialled, used⟩ := facts.popped popped
    have came := facts.came worker target (by rw [acquiring]; rfl)
    exact ⟨rest.holds worker came sameKey dialled fun _ => used, apart.reused popped⟩
  | @miss worker target acquiring none =>
    refine ⟨facts.without worker rfl ?_, apart.without rfl⟩
    intro other same
    cases same
    exact facts.came worker target (by rw [acquiring]; rfl)
  | @dial worker target connectionId response dialling connects fresh =>
    have came := facts.came worker target (by rw [dialling]; rfl)
    have fresher : PoolFacts { state with nextId := connectionId + 1 } :=
      ⟨facts.keys, facts.bounded, facts.idle, facts.came, facts.held⟩
    exact ⟨fresher.holds worker came rfl came nofun, apart.dialled fresh⟩
  | @fail worker =>
    exact ⟨facts.without worker rfl nofun, apart.without rfl⟩
  | @disconnect worker target owned reused holding =>
    have came := facts.came worker target (by rw [holding]; rfl)
    obtain ⟨sameKey, dialled, used⟩ := facts.held worker target owned reused holding
    refine ⟨facts.holds worker came sameKey dialled used, apart.same ?_⟩
    rw [holding]
    rfl
  | @finish worker target owned reused request response tx sent left count
      holding settings read noUpgrade relayed =>
      obtain ⟨sameKey, dialled, _⟩ := facts.held worker target owned reused holding
      split
      · next reusable =>
          obtain ⟨framed, nothingLeft⟩ := isReusable_eq_true reusable
          have used : OwnedUpstream.Used
              { owned with
                response := left.events
                last := some
                  { method := requestMethod request.upstream.head
                    events := owned.response
                    left } } :=
            ⟨_, rfl, completelyRead_of_relayed
              (meets target owned reused holding) read relayed framed
              nothingLeft⟩
          have released := facts.released used sameKey dialled
          have has : (state.workers worker).owned = some owned := by
            rw [holding]
            rfl
          exact ⟨released.without worker rfl nofun, apart.finished has rfl⟩
      · exact ⟨facts.without worker rfl nofun, apart.without rfl⟩

theorem upstream_reuse_is_safe {maxIdlePerKey nextId : Nat} {state : PoolState ω}
    (run : Run PoolStep Reusable (.new maxIdlePerKey nextId) state) :
    SafeReuse state :=
  (run.invariant (PoolInvariant.new maxIdlePerKey nextId) PoolInvariant.step).safe

/-- The first connection of a pool when its first response was relayed. -/
def givenBack (target : UpstreamTarget) (request : WorkerRequest)
    (events : List ReadEvent) (left : H1Reader) : OwnedUpstream :=
  { connectionId := 0
    response := left.events
    dialled := target
    last := some { method := requestMethod request.upstream.head, events, left } }

theorem run_of_next_worker (Meets : PoolState Bool → PoolLabel Bool → Prop)
    {first : UpstreamTarget} (second : UpstreamTarget) {request : WorkerRequest}
    {events : List ReadEvent} {response : UpstreamResponse}
    {tx sent : ResponseSender} {left : H1Reader} {count : Nat}
    (connects : first.connects = true)
    (sameKey : connectionKey second = connectionKey first)
    (settings : request.upstream.proxyPassTo.target = some first)
    (read : readResponseHead request events = .ret (.responded, some response))
    (noUpgrade : response.compiled.webSocketUpgrade = false)
    (relayed : response.reader.transferBody tx response.contentLength =
      .ret (left, sent, .ok count))
    (reusable : isReusable response.contentLength left false = true)
    (comesFirst : Meets (.new 1 0) (.start false first))
    (finishes : ∀ state, state.workers false =
        .holding first
          { connectionId := 0
            response := events
            dialled := first }
          false →
      Meets state (.finish false request))
    (comesSecond : ∀ state, state.targets = [first] → Meets state (.start true second))
    (others : ∀ state label, label = .miss false ∨
      label = .dial false 0 events ∨ label = .reuse true → Meets state label) :
    ∃ state, Run PoolStep Meets (.new 1 0) state ∧ state.workers true =
        .holding second (givenBack first request events left) true := by
  have dialled := (((Run.start (PoolState.new 1 0)).step comesFirst
    (.start rfl)).step (others _ _ (.inl rfl)) (.miss rfl rfl)).step (others _ _ (.inr (.inl rfl)))
      (dial rfl connects (Nat.le_refl 0))
  have started := (dialled.step (finishes _ rfl) (.finish rfl settings read noUpgrade relayed)).step
      (comesSecond _ rfl) (start rfl)
  have popped : (if isReusable response.contentLength left false = true then
      (H1PoolHolder.new 1).release first (givenBack first request events left)
      else H1PoolHolder.new 1).popIdle (connectionKey second) =
        some (givenBack first request events left, H1PoolHolder.new 1) := by
    rw [if_pos reusable, sameKey]
    exact H1PoolHolder.popIdle_release rfl Nat.zero_lt_one
  exact ⟨_, started.step (others _ _ (.inr (.inr rfl))) (reuse rfl popped rfl), rfl⟩

end

/-! ## A response with a trailer -/

section

/-- What a pooled connection has to read when the first response on it was
relayed. -/
def relayedAnswer [SliceOfU8Ext] [StrUtils] [Platform]
    (request : WorkerRequest) (events : List ReadEvent) :
    Outcome (Option (List ReadEvent)) :=
  readResponseHead request events >>= fun
    | (.responded, some response) =>
      response.reader.transferBody (mk 9 []) response.contentLength >>= fun
        | (left, _, .ok _) =>
          .ret (if !response.compiled.webSocketUpgrade &&
            isReusable response.contentLength left false then
              some left.events else none)
        | _ => .ret none
    | _ => .ret none

theorem relayedAnswer_eq_some [SliceOfU8Ext] [StrUtils] [Platform]
    {request : WorkerRequest} {events rest : List ReadEvent}
    (evaluated : relayedAnswer request events = .ret (some rest)) :
    ∃ (response : UpstreamResponse) (left : H1Reader) (sent : ResponseSender) (count : Nat),
      readResponseHead request events = .ret (.responded, some response) ∧
      response.compiled.webSocketUpgrade = false ∧
      response.reader.transferBody (mk 9 [])
        response.contentLength = .ret (left, sent, .ok count) ∧
      isReusable response.contentLength left false = true ∧
      left.events = rest := by
  unfold relayedAnswer at evaluated
  rw [bind_eq_ret_iff] at evaluated
  obtain ⟨⟨ended, found⟩, read, continued⟩ := evaluated
  cases found with
  | none => cases ended <;> cases continued
  | some response =>
    cases ended with
    | responded =>
      dsimp only at continued
      rw [bind_eq_ret_iff] at continued
      obtain ⟨⟨left, sent, result⟩, relayed, kept⟩ := continued
      cases result with
      | error err => cases kept
      | ok count =>
        have kept := ret.inj kept
        split at kept
        · next good =>
            simp only [Bool.and_eq_true, Bool.not_eq_true'] at good
            exact ⟨response, left, sent, count, read, good.1, relayed, good.2, Option.some.inj kept⟩
        · cases kept
    | _ => cases continued

attribute [local instance] linearSearch asciiCase barePlatform

/-- The scheme and the rest of an endpoint with a scheme. -/
@[reducible] def schemeEndpoints : RemoteEndpoints where
  getScheme endpoint :=
    if endpoint.text.takeWhile (· ≠ ':') = "https".toList then some .https
    else some .http
  getHostPort endpoint := (endpoint.text.dropWhile (· ≠ ':')).drop 3

attribute [local instance] schemeEndpoints

/-- A remote endpoint behind a jump host. -/
def behindJumpHost (endpoint : String) : MyReverseProxyRemoteEndpoint :=
  .overSsh "user@jump:22".toList { text := endpoint.toList, httpPathAndQuery := none }

def jumpRequest : WorkerRequest :=
  { upload with
    upstream :=
      { upload.upstream with
        proxyPassTo := .http1 (behindJumpHost "http://10.0.0.1:80") } }

def jumpTarget (endpoint : String) : UpstreamTarget :=
  { protocol := .h1, remoteHost := behindJumpHost endpoint }

theorem jumpRequest_target : jumpRequest.upstream.proxyPassTo.target =
    some (jumpTarget "http://10.0.0.1:80") :=
  rfl

/-- The answer ends where its length says. -/
theorem emptyAnswer_keepsRecordedEnd : KeepsRecordedEnd (ascii "POST") (unread emptyAnswer) := by
  intro _ _ _ _ _ _
  let head := ofPlain (ascii "HTTP/1.1 200 OK") [ascii "Content-Length: 0"] (by decide)
  have field : splitField (ascii "Content-Length: 0") =
      some (ascii "Content-Length", ascii " 0") := by
    decide
  refine ⟨head, [], [], .length 0, .known 0, by decide +kernel,
    ⟨200, by decide +kernel, by decide, by decide +kernel⟩, rfl, ?_, rfl⟩
  exact .known (nil_append [ascii "Content-Length: 0"]).symm field
    (by decide) (by decide) (by simp)

theorem upstream_reuse_is_safe_emptyAnswer :
    ∃ state : PoolState Bool, Run PoolStep Reusable (.new 1 0) state ∧ SafeReuse state ∧
        ∃ owned, state.workers true = .holding (jumpTarget "http://10.0.0.1:80") owned true := by
  have evaluated : relayedAnswer jumpRequest emptyAnswer = .ret (some []) := by
    decide +kernel
  obtain ⟨response, left, sent, count, read, noUpgrade, relayed, reusable, _⟩ :=
    relayedAnswer_eq_some evaluated
  have plain : (jumpTarget "http://10.0.0.1:80").identity.Plain := ⟨by decide, by decide⟩
  obtain ⟨state, run, holding⟩ :=
    run_of_next_worker Reusable (jumpTarget "http://10.0.0.1:80") rfl rfl
      jumpRequest_target read noUpgrade relayed reusable
      ⟨plain, by simp [PoolState.new]⟩
      (by
        intro state holds target owned reused again
        rw [holds] at again
        cases again
        exact emptyAnswer_keepsRecordedEnd)
      (by
        intro state came
        refine ⟨plain, ?_⟩
        intro other member
        rw [came] at member
        cases mem_singleton.mp member
        exact fun _ => rfl)
      (by
        rintro state label (rfl | rfl | rfl)
        · trivial
        · trivial
        · trivial)
  exact ⟨state, run, upstream_reuse_is_safe run, _, holding⟩

/-- The read of a response ends inside its trailer. -/
def trailerAnswer : List ReadEvent := [.data (ascii
      "HTTP/1.1 200 OK\r\nTransfer-Encoding: chunked\r\n\r\n0\r\nX-"),
    .data (ascii "A: b\r\n\r\n")]

theorem trailer_not_completelyRead {left : H1Reader}
    (rest : left.events = [.data (ascii "A: b\r\n\r\n")]) :
    ¬ CompletelyRead
      { method := requestMethod jumpRequest.upstream.head
        events := trailerAnswer
        left } := by
  rintro ⟨head, body, length, stream, _, ⟨status, code, _, delimits⟩, isBody⟩
  let okHead := ofPlain (ascii "HTTP/1.1 200 OK")
    [ascii "Transfer-Encoding: chunked"] (by decide)
  have source : unread trailerAnswer = okHead.bytes ++ ascii "0\r\nX-" ++ ascii "A: b\r\n\r\n" := by
    decide +kernel
  have unreadRest : unread left.events = ascii "A: b\r\n\r\n" := by
    rw [rest]
    decide
  have sameStart : head.bytes ++ body = okHead.bytes ++ ascii "0\r\nX-" := by
    apply append_cancel_right
    rw [← source, ← unreadRest]
    exact stream.symm
  obtain ⟨rfl, rfl⟩ := unique sameStart
  have isOk : statusCode okHead.firstLine = some 200 := by
    decide
  cases code.symm.trans isOk
  have isChunked : responseBody (requestMethod jumpRequest.upstream.head) 200
      (fieldValues transferEncodingHeader okHead.lines)
      (fieldValues contentLenHeader okHead.lines) = some (.body .chunked) := by
    decide +kernel
  cases delimits.symm.trans isChunked
  have noEnd : ¬ httpCrLf <:+ ascii "0\r\nX-" := by decide
  exact noEnd (ChunkedBody.ends_crLf isBody)

/-- The connection is handed out with the rest of the trailer unread, and for
settings with another scheme. -/
theorem trailer_is_left_to_next_worker :
    ∃ state : PoolState Bool, Run PoolStep (fun _ _ => True) (.new 1 0) state ∧ ¬ SafeReuse state ∧
        ∃ target owned exchange, state.workers true = .holding target owned true ∧
          owned.response = [.data (ascii "A: b\r\n\r\n")] ∧
          owned.last = some exchange ∧ ¬ exchange.CompletelyRead ∧
          connectionKey owned.dialled = connectionKey target ∧
          getScheme owned.dialled.remoteHost.endpoint = some .http ∧
          getScheme target.remoteHost.endpoint = some .https := by
  have evaluated : relayedAnswer jumpRequest trailerAnswer =
      .ret (some [.data (ascii "A: b\r\n\r\n")]) := by
    decide +kernel
  have sameKey : connectionKey (jumpTarget "http://10.0.0.1:80") =
      connectionKey (jumpTarget "https://10.0.0.1:80") := by
    decide
  obtain ⟨response, left, sent, count, read, noUpgrade, relayed, reusable,
    rest⟩ := relayedAnswer_eq_some evaluated
  obtain ⟨state, run, holding⟩ :=
    run_of_next_worker (fun _ _ => True) (jumpTarget "https://10.0.0.1:80")
      rfl sameKey.symm jumpRequest_target read noUpgrade relayed reusable
      trivial (fun _ _ => trivial) (fun _ _ => trivial)
      (fun _ _ _ => trivial)
  have cut : ¬ CompletelyRead
      { method := requestMethod jumpRequest.upstream.head
        events := trailerAnswer
        left } :=
    trailer_not_completelyRead rest
  refine ⟨state, run, ?_, _, _, _, holding, rest, rfl, cut, sameKey, rfl, rfl⟩
  intro safe
  obtain ⟨_, _, exchange, last, complete⟩ := safe.handedOut _ _ _ holding
  cases last
  exact cut complete

end

end ReverseProxy
