import ReverseProxy.H1ProxyServer.TransferSpec

/-!
# Relaying a body of known size

Every outcome of `transfer_known_size`: the body went out, everything received
before the end of the stream went out, or the sink refused a piece.
`relayExactlyLogged` also logs what lay in the buffer at every read.
-/

namespace ReverseProxy

open Outcome LoopBuffer List

section

variable {σ : Type} [H1Writer σ]

/-- `relayExactly`, with the unread bytes of the buffer at every read. -/
def relayExactlyLogged :
    Nat → Relay σ → Nat → Outcome (List Bytes × Relay σ × Except ProxyServerError Unit)
  | 0, _, _ => .diverge
  | fuel + 1, relay, remaining => do
    match ← forwardBuffered remaining relay remaining with
    | (relay, .error err) => return ([], relay, .error err)
    | (relay, .ok remaining) =>
      if remaining = 0 then return ([], relay, .ok ())
      else
        match readMore relay with
        | (next, .error err) =>
          return ([relay.buffer.contents], next, .error err)
        | (next, .ok _) => do
          let (log, result) ← relayExactlyLogged fuel next remaining
          return (relay.buffer.contents :: log, result)

/-- `transferKnownSize` with the log of its reads. -/
def transferKnownSizeLogged (relay : Relay σ) (size : Nat) :
    Outcome (List Bytes × Relay σ × Except ProxyServerError Nat) := do
  match ← relayExactlyLogged (size + 1) relay size with
  | (log, relay, .error err) => return (log, relay, .error err)
  | (log, relay, .ok _) => return (log, relay, .ok size)

variable {fuel remaining : Nat} {relay : Relay σ}

theorem relayExactly_of_logged {log : List Bytes} {result : Relay σ × Except ProxyServerError Unit}
    (logged : relayExactlyLogged fuel relay remaining = .ret (log, result)) :
    relayExactly fuel relay remaining = .ret result := by
  induction fuel generalizing relay remaining log with
  | zero => simp [relayExactlyLogged] at logged
  | succ fuel ih =>
    rw [relayExactlyLogged, bind_eq_ret_iff] at logged
    obtain ⟨⟨middle, forwarded⟩, ran, continued⟩ := logged
    rw [relayExactly, ran, bind_ret]
    cases forwarded with
    | error err =>
      cases continued
      rfl
    | ok left =>
      dsimp only at continued ⊢
      split at continued
      · next finished =>
          cases continued
          rw [if_pos finished]
          rfl
      next more =>
        rw [if_neg more]
        cases read : readMore middle with
        | mk next outcome =>
          cases outcome with
          | error err =>
            simp only [read] at continued
            cases continued
            rfl
          | ok value =>
            simp only [read, bind_eq_ret_iff] at continued
            obtain ⟨⟨rest, last⟩, ranRest, made⟩ := continued
            cases made
            exact ih ranRest

variable {size : Nat}

theorem transferKnownSize_of_logged
    {log : List Bytes} {result : Relay σ × Except ProxyServerError Nat}
    (logged : transferKnownSizeLogged relay size = .ret (log, result)) :
    transferKnownSize relay size = .ret result := by
  rw [transferKnownSizeLogged, bind_eq_ret_iff] at logged
  obtain ⟨⟨found, after, outcome⟩, ran, made⟩ := logged
  rw [transferKnownSize, relayExactly_of_logged ran, bind_ret]
  cases outcome with
  | error err | ok value =>
    cases made
    rfl

/-! ## Outcomes -/

/-- The bytes `taken` went to the sink in capped pieces, and every later byte
is still buffered or unread. -/
structure Forwards (before after : Relay σ) (taken : Bytes) : Prop where
  pending : before.pending = taken ++ after.pending
  writes : ∃ pieces, Writes before.sink pieces after.sink ∧ pieces.flatten = taken ∧
      ∀ piece ∈ pieces, piece ≠ [] ∧ piece.length ≤ bodyRelayChunkSize

theorem Consumes.forwards {before after : Relay σ} {taken : Bytes}
    (consumed : Consumes before after taken) : Forwards before after taken :=
  ⟨consumed.pending, consumed.writes⟩

/-- How relaying `size` bytes can end. -/
inductive RelayEnds (relay after : Relay σ) (size : Nat) : Except ProxyServerError Unit → Prop where
  | complete (arrived : size ≤ relay.available.length)
      (forwards : Forwards relay after (relay.available.take size)) :
      RelayEnds relay after size (.ok ())
  | ended {err : NetworkError} (short : relay.available.length < size)
      (forwards : Forwards relay after relay.available) :
      RelayEnds relay after size (.error (.networkError err))
  | refused {middle : Relay σ} {taken piece : Bytes} {err : NetworkError}
      (forwards : Forwards relay middle taken)
      (inside : taken ++ piece <+: relay.available.take size)
      (capped : piece.length ≤ bodyRelayChunkSize)
      (refused : writeHttpPayload middle.sink piece = (after.sink, .error err)) :
      RelayEnds relay after size (.error (.canNotWriteContentToRemoteConnection err))

theorem RelayEnds.after {middle after : Relay σ} {taken : Bytes}
    {result : Except ProxyServerError Unit} (consumed : Consumes relay middle taken)
    (ends : RelayEnds middle after size result) :
    RelayEnds relay after (taken.length + size) result := by
  have available := consumed.available
  have through : ∀ {last : Relay σ} {rest : Bytes},
      Forwards middle last rest → Forwards relay last (taken ++ rest) := by
    intro last rest forwards
    obtain ⟨first, firstWrites, firstBytes, firstCaps⟩ := consumed.writes
    obtain ⟨second, secondWrites, secondBytes, secondCaps⟩ := forwards.writes
    refine ⟨?_, first ++ second, firstWrites.append secondWrites, ?_, ?_⟩
    · rw [consumed.pending, forwards.pending, append_assoc]
    · rw [flatten_append, firstBytes, secondBytes]
    · intro piece member
      rcases mem_append.mp member with inFirst | inSecond
      · exact firstCaps piece inFirst
      · exact secondCaps piece inSecond
  cases ends with
  | complete arrived forwards =>
    refine .complete ?_ ?_
    · rw [available, length_append]
      omega
    · rw [available, take_length_add_append]
      exact through forwards
  | ended short forwards =>
    refine .ended ?_ ?_
    · rw [available, length_append]
      omega
    · rw [available]
      exact through forwards
  | refused forwards inside capped refused =>
    refine .refused (through forwards) ?_ capped refused
    rw [available, take_length_add_append, append_assoc]
    exact (prefix_append_right_inj _).mpr inside

/-! ## The inner loop -/

theorem forwardBuffered_returns (wf : relay.buffer.Wf) (enough : remaining ≤ fuel) :
    ∃ after result, forwardBuffered fuel relay remaining = .ret (after, result) := by
  induction fuel generalizing relay remaining with
  | zero =>
    have nothing : remaining = 0 := by omega
    exact ⟨relay, .ok 0, by simp [forwardBuffered, nothing]⟩
  | succ fuel ih =>
    unfold forwardBuffered
    by_cases nothing : remaining = 0
    · exact ⟨relay, .ok 0, by simp [nothing]⟩
    simp only [nothing, if_false, getData_of_wf wf, bind_ret]
    by_cases empty : relay.buffer.contents = []
    · exact ⟨relay, .ok remaining, by simp [empty]⟩
    have buffered := length_pos_iff.mpr empty
    have cap : 0 < bodyRelayChunkSize := by decide
    simp only [empty, if_false]
    split
    · exact ⟨_, _, rfl⟩
    · exact ih (commitRead_wf wf (by omega)) (by omega)

/-- A piece the sink refuses stands at the front of what is buffered. -/
theorem forwardBuffered_error {after : Relay σ} {err : ProxyServerError} (wf : relay.buffer.Wf)
    (done : forwardBuffered fuel relay remaining = .ret (after, .error err)) :
    RelayEnds relay after remaining (.error err) := by
  induction fuel generalizing relay remaining with
  | zero =>
    unfold forwardBuffered at done
    split at done
    · simp at done
    · simp at done
  | succ fuel ih =>
    unfold forwardBuffered at done
    split at done
    · simp at done
    next some =>
      simp only [getData_of_wf wf, bind_ret] at done
      split at done
      · simp at done
      next nonempty =>
        have buffered := length_pos_iff.mpr nonempty
        have cap : 0 < bodyRelayChunkSize := by decide
        split at done
        · next sink found written =>
            cases done
            refine .refused (Consumes.refl wf).forwards ?_ ?_ written
            · rw [nil_append, Relay.available, ← take_append_of_le_length (by omega)]
              exact take_prefix_take_left (by omega)
            · rw [length_take]
              omega
        · next sink written =>
            have wrote := consumes_write wf (by omega) (by omega) (by omega) written
            have rest := (ih (commitRead_wf wf (by omega)) done).after wrote
            rw [length_take] at rest
            convert rest using 1
            omega

/-! ## The outer loop -/

theorem readWithTimeout_ended (size : Nat) {events : List ReadEvent}
    (nothing : readable events = []) :
    ∃ err rest, readWithTimeout size events = (.error err, rest) ∧ unread rest = unread events := by
  cases events with
  | nil => exact ⟨_, _, rfl, rfl⟩
  | cons event events =>
    cases event with
    | timeout duration => exact ⟨_, _, rfl, rfl⟩
    | ioError text => exact ⟨_, _, rfl, rfl⟩
    | data found =>
      by_cases empty : found = []
      · exact ⟨_, _, by rw [readWithTimeout, if_pos empty],
          by rw [empty]; rfl⟩
      · simp [readable, empty] at nothing

omit [H1Writer σ] in
/-- A read fails with an error of the network when nothing more arrives. -/
theorem readMore_ended (wf : relay.buffer.Wf) (empty : relay.buffer.contents = [])
    (nothing : readable relay.events = []) :
    ∃ after err, readMore relay = (after, .error (.networkError err)) ∧
      after.sink = relay.sink ∧ after.pending = relay.pending := by
  have contents := getMut_contents relay.buffer
  unfold readMore
  cases found : relay.buffer.getMut with
  | mk buffer room =>
    rw [found] at contents
    cases room with
    | none =>
      have full := (getMut_eq_none_iff wf).mp (by rw [found])
      simp [empty, bufferCapacity] at full
    | some free =>
      obtain ⟨err, events, failed, same⟩ := readWithTimeout_ended free nothing
      simp only [failed]
      exact ⟨_, err, rfl, rfl, by simp [Relay.pending, contents, same]⟩

theorem forwardBuffered_short {left : Nat} {after : Relay σ} (wf : relay.buffer.Wf)
    (done : forwardBuffered fuel relay remaining = .ret (after, .ok left))
    (short : left ≠ 0) :
    Consumes relay after relay.buffer.contents ∧
      after.events = relay.events ∧ after.buffer.contents = [] ∧
        relay.buffer.contents.length + left = remaining := by
  obtain ⟨taken, consumed, events, lengths, ended⟩ := forwardBuffered_ok wf done
  have empty := ended.resolve_left short
  have all : relay.buffer.contents = taken := by
    have pending := consumed.pending
    simp only [Relay.pending, events, empty, nil_append] at pending
    exact append_cancel_right pending
  rw [all]
  exact ⟨consumed, events, empty, lengths⟩

theorem relayExactlyLogged_ends (wf : relay.buffer.Wf)
    (enough : remaining < fuel ∨ relay.buffer.contents ≠ [] ∧ remaining ≤ fuel ∧ 0 < fuel) :
    ∃ log after result,
      relayExactlyLogged fuel relay remaining = .ret (log, after, result) ∧
        (∀ buffered ∈ log, buffered = []) ∧
          RelayEnds relay after remaining result := by
  induction fuel generalizing relay remaining with
  | zero => omega
  | succ fuel ih =>
    obtain ⟨middle, forwarded, ran⟩ := forwardBuffered_returns wf (Nat.le_refl remaining)
    rw [relayExactlyLogged, ran, bind_ret]
    cases forwarded with
    | error err =>
      exact ⟨[], middle, .error err, rfl, by simp, forwardBuffered_error wf ran⟩
    | ok left =>
      by_cases finished : left = 0
      · obtain ⟨taken, consumed, _, lengths, _⟩ := forwardBuffered_ok wf ran
        have first : relay.available.take remaining = taken := by
          rw [consumed.available]
          exact take_left' (by omega)
        refine ⟨[], middle, .ok (), by simp [finished], by simp, .complete ?_ ?_⟩
        · rw [consumed.available, length_append]
          omega
        · rw [first]
          exact consumed.forwards
      · obtain ⟨consumed, events, empty, lengths⟩ := forwardBuffered_short wf ran finished
        simp only [finished, if_false]
        by_cases nothing : readable middle.events = []
        · obtain ⟨after, err, failed, sink, pending⟩ := readMore_ended consumed.wf empty nothing
          simp only [failed]
          refine ⟨_, after, _, rfl, by simp [empty], ?_⟩
          rw [← lengths]
          refine RelayEnds.after consumed (.ended ?_ ?_)
          · simp only [Relay.available, empty, nothing]
            exact Nat.pos_of_ne_zero finished
          · have none : middle.available = [] := by
              simp [Relay.available, empty, nothing]
            rw [none]
            exact ⟨pending.symm, [], sink ▸ .nil _, rfl, by simp⟩
        · obtain ⟨next, read⟩ := readMore_progress consumed.wf
            (by simp [empty, bufferCapacity]) nothing
          obtain ⟨received, bytes, nonempty, contents⟩ := readMore_ok consumed.wf read
          have fuelLeft : left ≤ fuel ∧ 0 < fuel := by
            rcases enough with small | ⟨buffered, small, _⟩
            · omega
            · have positive := length_pos_iff.mpr buffered
              omega
          obtain ⟨log, after, result, rest, reads, ends⟩ := ih received.wf
              (.inr ⟨by simp [contents, nonempty], fuelLeft⟩)
          simp only [read, rest, bind_ret]
          refine ⟨_, after, result, rfl, ?_, ?_⟩
          · simp only [mem_cons, forall_eq_or_imp]
            exact ⟨empty, reads⟩
          · have last := ends.after (consumed.trans received)
            rwa [append_nil, lengths] at last

/-- A sink that accepts everything leaves only one outcome to a body that
arrives. -/
theorem RelayEnds.eq_ok {after : Relay σ}
    {result : Except ProxyServerError Unit} (accepts : AcceptsAll σ)
    (arrives : size ≤ relay.available.length)
    (ends : RelayEnds relay after size result) : result = .ok () := by
  cases ends with
  | complete _ _ => rfl
  | ended short _ => omega
  | @refused middle _ piece _ _ _ _ refused =>
    obtain ⟨next, written⟩ := accepts middle.sink piece
    rw [written] at refused
    simp at refused

theorem relayExactly_progress (accepts : AcceptsAll σ) (wf : relay.buffer.Wf)
    (enough : remaining < fuel ∨ relay.buffer.contents ≠ [] ∧ remaining ≤ fuel ∧ 0 < fuel)
    (arrives : remaining ≤ relay.available.length) :
    ∃ after, relayExactly fuel relay remaining = .ret (after, .ok ()) := by
  obtain ⟨log, after, result, ran, _, ends⟩ := relayExactlyLogged_ends wf enough
  rw [ends.eq_ok accepts arrives] at ran
  exact ⟨after, relayExactly_of_logged ran⟩

/-! ## The whole transfer -/

/-- For every stream and every sink: the relay of a body of `size` bytes
returns; each of its reads finds an empty buffer; and it has forwarded the first
`size` bytes, or all that arrived if that was less, or all before the piece the
sink refused. -/
theorem transferKnownSize_relays_exactly {relay : Relay σ} (wf : relay.buffer.Wf) (size : Nat) :
    ∃ log after result,
      transferKnownSizeLogged relay size = .ret (log, after, result) ∧
      transferKnownSize relay size = .ret (after, result) ∧
      (∀ buffered ∈ log, buffered = []) ∧
      RelayEnds relay after size (result.map fun _ => ()) ∧
      (∀ sent, result = .ok sent → sent = size) := by
  obtain ⟨log, after, result, ran, reads, ends⟩ :=
    relayExactlyLogged_ends wf (.inl (Nat.lt_succ_self size))
  cases result with
  | error err =>
    have logged : transferKnownSizeLogged relay size = .ret (log, after, .error err) := by
      rw [transferKnownSizeLogged, ran, bind_ret]
      rfl
    exact ⟨log, after, .error err, logged, transferKnownSize_of_logged logged, reads, ends, by simp⟩
  | ok value =>
    have logged : transferKnownSizeLogged relay size = .ret (log, after, .ok size) := by
      rw [transferKnownSizeLogged, ran, bind_ret]
      rfl
    exact ⟨log, after, .ok size, logged, transferKnownSize_of_logged logged, reads, ends, by simp⟩

end

/-- The sink of the source's own tests. -/
structure RelaySink where
  writes : List Bytes

instance : H1Writer RelaySink where
  writeHttpPayload sink buffer := ({ sink with writes := sink.writes ++ [buffer] }, .ok ())

/-- A body cut by two reads, with a pipelined request behind it. -/
theorem transferKnownSize_relays_exactly_four :
    let relay : Relay RelaySink :=
      { events := [.data [66, 79], .data [68, 89, 71]]
        buffer := new fun _ => 0
        sink := ⟨[]⟩ }
    ∃ log after result,
      transferKnownSizeLogged relay 4 = .ret (log, after, result) ∧
      transferKnownSize relay 4 = .ret (after, result) ∧
      (∀ buffered ∈ log, buffered = []) ∧
      RelayEnds relay after 4 (result.map fun _ => ()) ∧
      (∀ sent, result = .ok sent → sent = 4) :=
  transferKnownSize_relays_exactly (new_wf _) 4

end ReverseProxy
