import ReverseProxy.H1ProxyServer.TransferBody

/-!
# What a transfer takes

A transfer that returns normally has moved a prefix of the pending bytes into
its sink, in order, and left the rest in the buffer and the socket.
-/

namespace ReverseProxy

open LoopBuffer Relay List

/-- The bytes that arrive before a read fails. -/
def readable : List ReadEvent → Bytes
  | .data bytes :: events =>
    if bytes = [] then [] else bytes ++ readable events
  | _ => []

theorem readable_isPrefix (events : List ReadEvent) : readable events <+: unread events := by
  induction events with
  | nil => exact prefix_refl _
  | cons event events ih =>
    cases event with
    | data bytes =>
      by_cases empty : bytes = []
      · simp [readable, empty]
      · simpa [readable, unread, empty] using ih
    | timeout duration => simp [readable]
    | ioError text => simp [readable]

theorem readWithTimeout_ok {size : Nat} {events rest : List ReadEvent}
    {bytes : Bytes} (room : 0 < size)
    (read : readWithTimeout size events = (.ok bytes, rest)) :
    unread events = bytes ++ unread rest ∧ readable events = bytes ++ readable rest ∧
        bytes ≠ [] ∧ bytes.length ≤ size := by
  cases events with
  | nil => simp [readWithTimeout] at read
  | cons event events =>
    cases event with
    | timeout duration => simp [readWithTimeout] at read
    | ioError text => simp [readWithTimeout] at read
    | data found =>
      rw [readWithTimeout] at read
      split at read
      · simp at read
      next nonempty =>
        split at read
        · next fits =>
            cases read
            exact ⟨rfl, by simp [readable, nonempty], nonempty, fits⟩
        next longer =>
          cases read
          have more : found.drop size ≠ [] := by
            simp only [ne_eq, drop_eq_nil_iff]
            omega
          refine ⟨?_, ?_, ?_, by simp⟩
          · simp [unread, ← append_assoc]
          · simp [readable, nonempty, more, ← append_assoc]
          · simp only [ne_eq, take_eq_nil_iff, nonempty, or_false]
            omega

theorem readWithTimeout_progress (size : Nat) {events : List ReadEvent}
    (more : readable events ≠ []) :
    ∃ bytes rest, readWithTimeout size events = (.ok bytes, rest) := by
  cases events with
  | nil => simp [readable] at more
  | cons event events =>
    cases event with
    | timeout duration => simp [readable] at more
    | ioError text => simp [readable] at more
    | data found =>
      by_cases empty : found = []
      · simp [readable, empty] at more
      by_cases fits : found.length ≤ size
      · exact ⟨found, events, by simp [readWithTimeout, empty, fits]⟩
      · exact ⟨found.take size, .data (found.drop size) :: events,
          by simp [readWithTimeout, empty, fits]⟩

section

variable {σ : Type} [H1Writer σ]

/-- A sequence of writes that all succeed. -/
inductive Writes : σ → List Bytes → σ → Prop where
  | nil (sink : σ) : Writes sink [] sink
  | cons {sink middle final : σ} {piece : Bytes} {pieces : List Bytes}
      (written : writeHttpPayload sink piece = (middle, .ok ()))
      (others : Writes middle pieces final) :
      Writes sink (piece :: pieces) final

theorem Writes.append {sink middle final : σ} {left right : List Bytes}
    (first : Writes sink left middle) (second : Writes middle right final) :
    Writes sink (left ++ right) final := by
  induction first with
  | nil sink => exact second
  | cons written _ ih => exact .cons written (ih second)

/-- The bytes a relay can still take before a read fails. -/
def Relay.available (relay : Relay σ) : Bytes := relay.buffer.contents ++ readable relay.events

omit [H1Writer σ] in
theorem Relay.length_available (relay : Relay σ) :
    relay.available.length = relay.buffer.contents.length + (readable relay.events).length := by
  rw [available, length_append]

/-- `after` is reached from `before` by moving the bytes `taken` into the
sink. -/
structure Consumes (before after : Relay σ) (taken : Bytes) : Prop where
  wf : after.buffer.Wf
  pending : before.pending = taken ++ after.pending
  available : before.available = taken ++ after.available
  writes : ∃ pieces, Writes before.sink pieces after.sink ∧ pieces.flatten = taken ∧
      ∀ piece ∈ pieces, piece ≠ [] ∧ piece.length ≤ bodyRelayChunkSize

variable {relay : Relay σ}

theorem Consumes.refl (wf : relay.buffer.Wf) : Consumes relay relay [] :=
  { wf
    pending := rfl
    available := rfl
    writes := ⟨[], .nil _, rfl, by simp⟩ }

variable {after : Relay σ}

theorem Consumes.trans {before middle : Relay σ} {left right : Bytes}
    (first : Consumes before middle left)
    (second : Consumes middle after right) :
    Consumes before after (left ++ right) := by
  obtain ⟨leftPieces, leftWrites, rfl, leftSizes⟩ := first.writes
  obtain ⟨rightPieces, rightWrites, rfl, rightSizes⟩ := second.writes
  refine
    { wf := second.wf
      pending := by rw [first.pending, second.pending, append_assoc]
      available := by
        rw [first.available, second.available, append_assoc]
      writes := ⟨leftPieces ++ rightPieces, leftWrites.append rightWrites,
        by simp, ?_⟩ }
  intro piece member
  rcases mem_append.mp member with inLeft | inRight
  · exact leftSizes piece inLeft
  · exact rightSizes piece inRight

/-! ## One read -/

theorem readMore_ok (wf : relay.buffer.Wf) (read : readMore relay = (after, .ok ())) :
    Consumes relay after [] ∧ ∃ bytes, bytes ≠ [] ∧
        after.buffer.contents = relay.buffer.contents ++ bytes := by
  unfold readMore at read
  have contents := getMut_contents relay.buffer
  have bufferWf := getMut_wf wf
  cases found : relay.buffer.getMut with
  | mk buffer room =>
    simp only [found] at read contents bufferWf
    cases room with
    | none => simp at read
    | some free =>
      obtain ⟨fits, positive⟩ := getMut_free
        (show relay.buffer.getMut.2 = some free by rw [found])
      rw [found] at fits
      simp only at read
      split at read
      · simp at read
      next bytes events received =>
        cases read
        obtain ⟨unreadEq, readableEq, nonempty, short⟩ := readWithTimeout_ok positive received
        have filled := fill_advance_contents bufferWf bytes
        rw [contents] at filled
        refine ⟨
          { wf := fill_advance_wf bufferWf
              (by simp only at fits; omega)
            pending := ?_
            available := ?_
            writes := ⟨[], .nil _, rfl, by simp⟩ },
          bytes, nonempty, filled⟩
        · simp [pending, filled, unreadEq]
        · simp [available, filled, readableEq]

omit [H1Writer σ] in
theorem readMore_progress {relay : Relay σ} (wf : relay.buffer.Wf)
    (room : relay.buffer.contents.length < bufferCapacity)
    (more : readable relay.events ≠ []) :
    ∃ after, readMore relay = (after, .ok ()) := by
  unfold readMore
  cases found : relay.buffer.getMut with
  | mk buffer free =>
    cases free with
    | none =>
      have full := (getMut_eq_none_iff wf).mp (by rw [found])
      omega
    | some free =>
      obtain ⟨bytes, rest, received⟩ := readWithTimeout_progress free more
      simp only [received]
      exact ⟨_, rfl⟩

/-! ## Forwarding what is buffered -/

/-- One capped write and the commit that follows it. -/
theorem consumes_write {sink : σ} {size : Nat} (wf : relay.buffer.Wf)
    (positive : 0 < size) (inside : size ≤ relay.buffer.contents.length)
    (capped : size ≤ bodyRelayChunkSize) (written : writeHttpPayload relay.sink
      (relay.buffer.contents.take size) = (sink, .ok ())) :
    Consumes relay { relay with sink, buffer := relay.buffer.commitRead size }
      (relay.buffer.contents.take size) := by
  have committed := commitRead_contents relay.buffer size
  refine
    { wf := commitRead_wf wf inside
      pending := ?_
      available := ?_
      writes := ⟨[relay.buffer.contents.take size], .cons written (.nil _), by simp, ?_⟩ }
  · simp [pending, committed, ← append_assoc]
  · simp [available, committed, ← append_assoc]
  · intro piece member
    have same : piece = relay.buffer.contents.take size := by
      simpa using member
    subst same
    constructor
    · intro empty
      have lengths := congrArg List.length empty
      rw [length_take] at lengths
      simp only [length_nil] at lengths
      omega
    · rw [length_take]
      omega

theorem forwardBuffered_ok {fuel remaining left : Nat} (wf : relay.buffer.Wf)
    (done : forwardBuffered fuel relay remaining = .ret (after, .ok left)) :
    ∃ taken, Consumes relay after taken ∧ after.events = relay.events ∧
      taken.length + left = remaining ∧ (left = 0 ∨ after.buffer.contents = []) := by
  induction fuel generalizing relay remaining with
  | zero =>
    unfold forwardBuffered at done
    split at done
    · next nothing =>
        cases done
        exact ⟨[], .refl wf, rfl, by simp [nothing], Or.inl rfl⟩
    · simp at done
  | succ fuel ih =>
    unfold forwardBuffered at done
    split at done
    · next nothing =>
        cases done
        exact ⟨[], .refl wf, rfl, by simp [nothing], Or.inl rfl⟩
    next some =>
      simp only [getData_of_wf wf, Outcome.bind_ret] at done
      split at done
      · next empty =>
          cases done
          exact ⟨[], .refl wf, rfl, by simp, Or.inr empty⟩
      next nonempty =>
        have buffered : 0 < relay.buffer.contents.length := length_pos_iff.mpr nonempty
        have cap : 0 < bodyRelayChunkSize := by decide
        split at done
        · simp at done
        next sink written =>
          obtain ⟨taken, consumed, events, lengths, ended⟩ := ih
            (commitRead_wf wf (by omega)) done
          have wrote := consumes_write wf (by omega) (by omega) (by omega) written
          refine ⟨_, wrote.trans consumed, events, ?_, ended⟩
          rw [length_append, length_take]
          omega

/-- The sinks that never fail. -/
def AcceptsAll (σ : Type) [H1Writer σ] : Prop := ∀ (sink : σ) (piece : Bytes),
    ∃ next, writeHttpPayload sink piece = (next, .ok ())

/-! ## Relaying an exact number of bytes -/

theorem relayExactly_ok {fuel remaining : Nat} (wf : relay.buffer.Wf)
    (done : relayExactly fuel relay remaining = .ret (after, .ok ())) :
    ∃ taken, Consumes relay after taken ∧ taken.length = remaining := by
  induction fuel generalizing relay remaining with
  | zero => simp [relayExactly] at done
  | succ fuel ih =>
    rw [relayExactly, Outcome.bind_eq_ret_iff] at done
    obtain ⟨⟨middle, result⟩, forwarded, continued⟩ := done
    cases result with
    | error err => simp at continued
    | ok left =>
      obtain ⟨taken, consumed, _, lengths, _⟩ := forwardBuffered_ok wf forwarded
      simp only at continued
      split at continued
      · next finished =>
          cases continued
          exact ⟨taken, consumed, by omega⟩
      cases read : readMore middle with
      | mk next result =>
        cases result with
        | error err => simp [read] at continued
        | ok value =>
          simp only [read] at continued
          obtain ⟨received, _⟩ := readMore_ok consumed.wf read
          obtain ⟨more, rest, moreLength⟩ := ih received.wf continued
          refine ⟨_, consumed.trans (received.trans rest), ?_⟩
          simp only [nil_append, length_append]
          omega

end

end ReverseProxy
